import GodotSdk.Proofs.Script.Layout
import GodotSdk.Proofs.Text.Wrap

/-!
# Code and comments

The lines of a script whose first visible character is a number sign are comments, and
the others are its code. Documentation gives comments only, whatever is in it. A remark
that is printed as one line gives a comment and, from the first line feed in it,
whatever follows.
-/

namespace GodotSdk.Script

/-- Whether the first character of a line that is not blank begins a comment. -/
def isComment (line : List Char) : Bool :=
  (Text.trimStart line).head? == some '#'

/-- The lines of a text that are not comments. -/
def codeLines (text : List Char) : List (List Char) :=
  (text.splitOn '\n').filter fun line => !isComment line

/-- A text that can be part of a comment: what it has after its first line feed are
comments of their own. -/
def Encloses (text : String) : Prop :=
  ∀ line ∈ (text.toList.splitOn '\n').tail, isComment line = true

instance (text : String) : Decidable (Encloses text) :=
  inferInstanceAs (Decidable (∀ line ∈ _, _))

/-! ## Lines of a text -/

theorem codeLines_append_cons (left right : List Char) :
    codeLines (left ++ '\n' :: right) = codeLines left ++ codeLines right := by
  simp [codeLines, List.splitOn_append_cons_self]

theorem codeLines_eq_nil_iff {text : List Char} :
    codeLines text = [] ↔ ∀ line ∈ text.splitOn '\n', isComment line = true := by
  simp [codeLines]

theorem codeLines_of_single {line : List Char} (single : '\n' ∉ line) :
    codeLines line = if isComment line then [] else [line] := by
  rw [codeLines, List.splitOn_eq_singleton single]
  cases comment : isComment line <;> simp [comment]

theorem isComment_append {before : List Char} (opens : isComment before = true)
    (after : List Char) :
    isComment (before ++ after) = true := by
  simp only [isComment, Text.trimStart, List.dropWhile_append] at opens ⊢
  cases dropped : before.dropWhile Text.isBlank with
  | nil => simp [dropped] at opens
  | cons first others => simpa [dropped] using opens

theorem isComment_toList_append {before : String}
    (opens : isComment before.toList = true) (after : String) :
    isComment (before ++ after).toList = true := by
  rw [String.toList_append]
  exact isComment_append opens after.toList

theorem feedless_append {left right : String} (first : '\n' ∉ left.toList)
    (second : '\n' ∉ right.toList) :
    '\n' ∉ (left ++ right).toList := by
  rw [String.toList_append, List.mem_append, not_or]
  exact ⟨first, second⟩

/-- Of a literal, the characters are taken out first, since the kernel is slow to decode
it. -/
theorem isComment_ofList {chars : List Char} (opens : isComment chars = true) :
    isComment (String.ofList chars).toList = true := by
  rwa [String.toList_ofList]

theorem feedless_ofList {chars : List Char} (single : '\n' ∉ chars) :
    '\n' ∉ (String.ofList chars).toList := by
  rwa [String.toList_ofList]

theorem isComment_of_blanks {blanks : List Char}
    (blank : ∀ char ∈ blanks, Text.isBlank char = true)
    (line : List Char) : isComment (blanks ++ line) = isComment line := by
  simp only [isComment, Text.trimStart, List.dropWhile_append_of_pos blank]

/-- What follows a line decides about it only if the line is blank. -/
theorem isComment_append_of_mark {mark : Char} {rest : List Char}
    (visible : Text.isBlank mark = false) (plain : mark ≠ '#') (line : List Char) :
    isComment (line ++ mark :: rest) = isComment line := by
  simp only [isComment, Text.trimStart, List.dropWhile_append]
  cases dropped : line.dropWhile Text.isBlank with
  | nil => simp [visible, plain]
  | cons first others => simp

/-! ## Lines of a layout -/

/-- The lines that steps print at a depth. -/
def linesAt (depth : Nat) (steps : List Step) : List (List Char) :=
  (entriesOf depth steps).flatMap fun entry => entry.toList.splitOn '\n'

theorem splitOn_printed (entries : List String) :
    (printed entries).toList.splitOn '\n' =
      (entries.flatMap fun entry => entry.toList.splitOn '\n') ++ [[]] := by
  induction entries with
  | nil => rfl
  | cons entry rest ih =>
      rw [printed_cons]
      simp [String.toList_append, List.splitOn_append_cons_self, ih]

theorem splitOn_layout (steps : List Step) :
    (layout steps).toList.splitOn '\n' = linesAt 0 steps ++ [[]] := by
  rw [layout_eq, splitOn_printed, linesAt]

@[simp] theorem linesAt_nil (depth : Nat) : linesAt depth [] = [] := by
  simp [linesAt]

@[simp] theorem linesAt_append (depth : Nat) (left right : List Step) :
    linesAt depth (left ++ right) = linesAt depth left ++ linesAt depth right := by
  simp [linesAt]

theorem linesAt_flatMap {α : Type} (depth : Nat) (steps : α → List Step)
    (values : List α) :
    linesAt depth (values.flatMap steps) = values.flatMap fun value =>
      linesAt depth (steps value) := by
  induction values with
  | nil => simp
  | cons first rest ih => simp [ih]

theorem linesAt_line (depth : Nat) (text : String) :
    linesAt depth [.line text] = (entry depth text).toList.splitOn '\n' := by
  simp [linesAt, entriesOf_cons, Step.entries]

theorem linesAt_block (depth : Nat) (header : String) (body : List Step) :
    linesAt depth [.block header body] = linesAt depth [.line (header ++ ":")] ++
      linesAt (depth + 1) body := by
  simp [linesAt, entriesOf_cons, Step.entries]

/-- What stands before a text, if it is a part of one line, stands before the first line
of the text. -/
theorem splitOn_append_of_feedless {before : List Char} (feedless : '\n' ∉ before)
    (text : List Char) :
    (before ++ text).splitOn '\n' = (before ++ (text.splitOn '\n').headD []) ::
      (text.splitOn '\n').tail := by
  by_cases feeds : '\n' ∈ text
  · obtain ⟨first, others, parts, single⟩ := List.eq_append_cons_of_mem feeds
    have head : '\n' ∉ before ++ first := by simp_all
    rw [parts, ← List.append_assoc, List.splitOn_append_cons_self,
      List.splitOn_append_cons_self, List.splitOn_eq_singleton head,
      List.splitOn_eq_singleton single]
    rfl
  · have whole : '\n' ∉ before ++ text := by simp_all
    rw [List.splitOn_eq_singleton whole, List.splitOn_eq_singleton feeds]
    rfl

theorem isBlank_indentation {depth : Nat} {char : Char}
    (member : char ∈ (indentation depth).toList) :
    Text.isBlank char = true ∧ char ≠ '\n' := by
  simp only [indentation, String.toList_ofList, List.mem_replicate] at member
  rw [member.2]
  decide

theorem toList_entry {depth : Nat} {text : String} (printable : text ≠ "") :
    (entry depth text).toList = (indentation depth).toList ++ text.toList := by
  simp [entry, printable]

theorem feedless_entry {text : String} (feedless : '\n' ∉ text.toList) (depth : Nat) :
    '\n' ∉ (entry depth text).toList := by
  unfold entry
  split
  · exact List.not_mem_nil
  · exact feedless_append (fun member => (isBlank_indentation member).2 rfl) feedless

/-- The lines of a remark with several lines: what stands before it is before the
first. -/
theorem linesAt_remark {before : String} (filled : before ≠ "")
    (single : '\n' ∉ before.toList) (depth : Nat) (text : String) :
    linesAt depth [.line (before ++ text)] =
      ((indentation depth).toList ++ before.toList ++
        (text.toList.splitOn '\n').headD []) ::
        (text.toList.splitOn '\n').tail := by
  have printable : before ++ text ≠ "" := by
    intro empty
    exact filled (String.append_eq_empty_iff.mp empty).1
  have opens : '\n' ∉ (indentation depth).toList ++ before.toList := by
    rw [List.mem_append, not_or]
    exact ⟨fun member => (isBlank_indentation member).2 rfl, single⟩
  rw [linesAt_line, toList_entry printable, String.toList_append, ← List.append_assoc,
    splitOn_append_of_feedless opens]

/-! ## Remarks -/

section Remarks

variable {before : List Char} {text : String} {mark : Char} {rest : List Char}

theorem encloses_of_single (single : '\n' ∉ text.toList) : Encloses text := by
  simp [Encloses, List.splitOn_eq_singleton single]

theorem codeLines_append_mark (visible : Text.isBlank mark = false) (plain : mark ≠ '#')
    (single : '\n' ∉ mark :: rest) (text : List Char) :
    codeLines (text ++ mark :: rest) = [] ↔ codeLines text = [] := by
  have lastLine {line : List Char} (feedless : '\n' ∉ line) :
      codeLines (line ++ mark :: rest) = [] ↔ codeLines line = [] := by
    have whole : '\n' ∉ line ++ mark :: rest := by simp_all
    rw [codeLines_of_single whole, codeLines_of_single feedless,
      isComment_append_of_mark visible plain]
    cases isComment line <;> simp
  by_cases feeds : '\n' ∈ text.reverse
  · obtain ⟨last, init, reversed, feedless⟩ := List.eq_append_cons_of_mem feeds
    obtain rfl : text = init.reverse ++ '\n' :: last.reverse := by
      rw [← List.reverse_reverse text, reversed]
      simp
    rw [List.append_assoc, List.cons_append, codeLines_append_cons,
      codeLines_append_cons, List.append_eq_nil_iff, List.append_eq_nil_iff,
      lastLine (by simpa using feedless)]
  · exact lastLine (by simpa using feeds)

/-- A remark gives nothing but comments exactly if its text stays enclosed. -/
theorem codeLines_remark (opens : isComment before = true) (oneLine : '\n' ∉ before)
    (visible : Text.isBlank mark = false) (plain : mark ≠ '#')
    (single : '\n' ∉ mark :: rest) :
    codeLines (before ++ text.toList ++ mark :: rest) = [] ↔ Encloses text := by
  rw [codeLines_append_mark visible plain single]
  by_cases feeds : '\n' ∈ text.toList
  · obtain ⟨first, others, parts, feedless⟩ := List.eq_append_cons_of_mem feeds
    have head : '\n' ∉ before ++ first := by simp_all
    rw [parts, ← List.append_assoc, codeLines_append_cons, codeLines_of_single head,
      if_pos (isComment_append opens first), List.nil_append, codeLines_eq_nil_iff,
      Encloses, parts, List.splitOn_append_cons_self,
      List.splitOn_eq_singleton feedless]
    rfl
  · have whole : '\n' ∉ before ++ text.toList := by simp_all
    simp [codeLines_of_single whole, isComment_append opens, encloses_of_single feeds]

end Remarks

/-! ## Code of a layout -/

/-- The code that steps print at a depth. -/
def codeAt (depth : Nat) (steps : List Step) : List (List Char) :=
  (entriesOf depth steps).flatMap fun entry => codeLines entry.toList

theorem codeLines_printed (entries : List String) :
    codeLines (printed entries).toList =
      entries.flatMap (fun entry => codeLines entry.toList) ++ [[]] := by
  rw [codeLines, splitOn_printed, List.filter_append, List.filter_flatMap]
  rfl

theorem codeLines_layout (steps : List Step) :
    codeLines (layout steps).toList = codeAt 0 steps ++ [[]] := by
  rw [layout_eq, codeLines_printed, codeAt]

@[simp] theorem codeAt_nil (depth : Nat) : codeAt depth [] = [] := by
  simp [codeAt]

@[simp] theorem codeAt_append (depth : Nat) (left right : List Step) :
    codeAt depth (left ++ right) = codeAt depth left ++ codeAt depth right := by
  simp [codeAt]

theorem codeAt_cons (depth : Nat) (first : Step) (rest : List Step) :
    codeAt depth (first :: rest) = codeAt depth [first] ++ codeAt depth rest :=
  codeAt_append depth [first] rest

theorem codeAt_flatMap {α : Type} (depth : Nat) (steps : α → List Step)
    (values : List α) :
    codeAt depth (values.flatMap steps) = values.flatMap fun value =>
      codeAt depth (steps value) := by
  induction values with
  | nil => simp
  | cons first rest ih => simp [ih]

theorem codeAt_line (depth : Nat) (text : String) :
    codeAt depth [.line text] = codeLines (entry depth text).toList := by
  simp [codeAt, entriesOf_cons, Step.entries]

theorem codeAt_block (depth : Nat) (header : String) (body : List Step) :
    codeAt depth [.block header body] = codeAt depth [.line (header ++ ":")] ++
      codeAt (depth + 1) body := by
  simp [codeAt, entriesOf_cons, Step.entries]

/-- Of a line, indented or not, it is decided in the same way whether it is code. -/
theorem codeLines_entry {text : String} (printable : text ≠ "")
    (single : '\n' ∉ text.toList) (depth : Nat) :
    codeLines (entry depth text).toList = if isComment text.toList then []
      else [(entry depth text).toList] := by
  have whole : '\n' ∉ (indentation depth).toList ++ text.toList := by
    rw [List.mem_append, not_or]
    exact ⟨fun member => (isBlank_indentation member).2 rfl, single⟩
  rw [toList_entry printable, codeLines_of_single whole,
    isComment_of_blanks fun char member => (isBlank_indentation member).1]

/-- A comment of one line prints no code. -/
theorem codeLines_entry_of_comment {text : String}
    (opens : isComment text.toList = true) (single : '\n' ∉ text.toList) (depth : Nat) :
    codeLines (entry depth text).toList = [] := by
  have printable : text ≠ "" := by
    rintro rfl
    simp [isComment, Text.trimStart] at opens
  rw [codeLines_entry printable single, if_pos opens]

theorem codeAt_line_of_comment {text : String} (opens : isComment text.toList = true)
    (single : '\n' ∉ text.toList) (depth : Nat) : codeAt depth [.line text] = [] := by
  rw [codeAt_line, codeLines_entry_of_comment opens single]

/-- A line that begins with another visible character is code. -/
theorem codeAt_line_of_mark {mark : Char} {text : String}
    (first : text.toList.head? = some mark) (visible : Text.isBlank mark = false)
    (plain : mark ≠ '#') (single : '\n' ∉ text.toList) (depth : Nat) :
    codeAt depth [.line text] = [(entry depth text).toList] := by
  obtain ⟨rest, chars⟩ := List.head?_eq_some_iff.mp first
  have printable : text ≠ "" := by
    rintro rfl
    cases first
  have code : isComment text.toList = false := by
    simp [isComment, Text.trimStart, chars, visible, plain]
  rw [codeAt_line, codeLines_entry printable single, code]
  rfl

/-- A remark on a line of its own prints no code exactly if its text stays enclosed. -/
theorem codeAt_remark (mark : Char) (rest : List Char) {before text after : String}
    (opens : isComment before.toList = true) (oneLine : '\n' ∉ before.toList)
    (ends : after.toList = mark :: rest) (visible : Text.isBlank mark = false)
    (plain : mark ≠ '#') (single : '\n' ∉ mark :: rest) (depth : Nat) :
    codeAt depth [.line (before ++ text ++ after)] = [] ↔ Encloses text := by
  have printable : before ++ text ++ after ≠ "" := by
    intro empty
    have nothing := congrArg String.toList empty
    simp [ends] at nothing
  have opened : isComment ((indentation depth).toList ++ before.toList) = true := by
    rw [isComment_of_blanks fun char member => (isBlank_indentation member).1, opens]
  have first : '\n' ∉ (indentation depth).toList ++ before.toList := by
    rw [List.mem_append, not_or]
    exact ⟨fun member => (isBlank_indentation member).2 rfl, oneLine⟩
  rw [codeAt_line, toList_entry printable]
  simp only [String.toList_append, ends, ← List.append_assoc]
  exact codeLines_remark opened first visible plain single

/-! ## Documentation -/

theorem comment_of_mem_paragraphLines {paragraph line : List Char}
    (feedless : '\n' ∉ paragraph) (among : line ∈ paragraphLines paragraph) :
    isComment line = true ∧ '\n' ∉ line := by
  simp only [paragraphLines] at among
  split at among
  · obtain rfl := List.mem_singleton.mp among
    decide
  · obtain ⟨wrapped, within, rfl⟩ := List.mem_map.mp among
    refine ⟨isComment_append (by decide) wrapped, ?_⟩
    rw [List.mem_append, not_or]
    refine ⟨by decide, fun member => feedless ?_⟩
    exact (Text.trim_sublist paragraph).subset
      (Text.mem_of_mem_wrap within (by decide) member)

theorem comment_of_mem_docLines {text line : String} (among : line ∈ docLines text) :
    isComment line.toList = true ∧ '\n' ∉ line.toList := by
  obtain ⟨chars, written, rfl⟩ := List.mem_map.mp among
  obtain ⟨paragraph, within, piece⟩ := List.mem_flatMap.mp written
  rw [String.toList_ofList]
  exact comment_of_mem_paragraphLines (Text.feedless_of_mem_lines within) piece

/-- Documentation prints comments only, for every text. -/
@[simp] theorem codeAt_doc (depth : Nat) (text : String) :
    codeAt depth [.doc text] = [] := by
  simp only [codeAt, entriesOf_cons, Step.entries, entriesOf_nil, List.append_nil,
    List.flatMap_map, List.flatMap_eq_nil_iff]
  intro line among
  obtain ⟨opens, single⟩ := comment_of_mem_docLines among
  exact codeLines_entry_of_comment opens single depth

end GodotSdk.Script
