import GodotSdk.Proofs.Script.CodeLines
import GodotSdk.Proofs.Script.Declarations

/-!
# Names that a text declares

A line declares the name after its first word, if that is a word that declares
something. The name may be any sequence of characters that do not end it, so a text can
declare names that are no identifiers. Comments declare nothing, but what a remark has
after its first line is no comment.
-/

namespace GodotSdk.Script

/-! ## Lines -/

/-- The words of which each declares the name after it. -/
def declaringWords : List String :=
  ["class_name", "class", "signal", "enum", "const", "var", "func"]

/-- Whether a character ends a name. -/
def endsName (char : Char) : Bool :=
  Text.isBlank char || char ∈ [':', '=', '(', '\x7b', ';', '#']

/-- The name after the first word of a text, if that word declares it. -/
def nameAfterWord? (text : List Char) : Option String :=
  let (word, rest) := Text.readName text
  let name := (Text.trimStart rest).takeWhile fun char => !endsName char
  if String.ofList word ∈ declaringWords ∧ rest.head?.any Text.isBlank ∧ name ≠ [] then
    some (String.ofList name)
  else none

/-- The name that a line declares. -/
def lineName? (line : List Char) : Option String :=
  let text := Text.trimStart line
  let (word, rest) := Text.readName text
  nameAfterWord? (if String.ofList word = "static" then Text.trimStart rest else text)

example : lineName? "    static func 2nd-best(settings: Dictionary):".toList =
    some "2nd-best" ∧ lineName? "var = data[\"var\"]".toList = none := by
  rw [String.toList_ofList, String.toList_ofList]
  decide +kernel

/-- The names that the lines of a text declare. -/
def declaredNames (text : List Char) : List String :=
  (text.splitOn '\n').filterMap lineName?

section Lines

variable {text word rest : List Char} {name : String}

theorem nameAfterWord?_eq_none (split : Text.readName text = (word, rest))
    (unnamed : String.ofList word ∉ declaringWords ∨
      rest.head?.any Text.isBlank = false ∨
      (Text.trimStart rest).head?.any endsName = true) : nameAfterWord? text =
        none := by
  simp only [nameAfterWord?, split]
  apply if_neg
  rintro ⟨declares, spaced, named⟩
  rcases unnamed with other | joined | ended
  · exact other declares
  · rw [joined] at spaced
    cases spaced
  · cases chars : Text.trimStart rest with
    | nil => simp [chars] at ended
    | cons first others =>
        have stops : endsName first = true := by simpa [chars] using ended
        simp [chars, stops] at named

theorem readName_of_stop
    (stops : ∀ char ∈ text.head?, Text.continuesIdentifier char = false) :
    Text.readName text = ([], text) := by
  cases text with
  | nil => rfl
  | cons first others =>
      have stop : ¬ Text.continuesIdentifier first = true := by simp [stops first rfl]
      rw [Text.readName, List.takeWhile_cons_of_neg stop,
        List.dropWhile_cons_of_neg stop]

theorem nameAfterWord?_of_stop
    (stops : ∀ char ∈ text.head?, Text.continuesIdentifier char = false) :
    nameAfterWord? text = none :=
  nameAfterWord?_eq_none (readName_of_stop stops) (.inl (by decide))

/-- A line declares nothing if its first visible character is no part of a name. -/
theorem lineName?_of_stop (stops : ∀ char ∈ (Text.trimStart text).head?,
    Text.continuesIdentifier char = false) :
    lineName? text = none := by
  have empty : String.ofList [] ≠ "static" := by decide
  simp only [lineName?, readName_of_stop stops, if_neg empty]
  exact nameAfterWord?_of_stop stops

theorem lineName?_of_comment (comment : isComment text = true) :
    lineName? text = none := by
  apply lineName?_of_stop
  intro char first
  rw [isComment, beq_iff_eq] at comment
  obtain rfl := Option.mem_unique first comment
  exact Text.continuesIdentifier_sign

/-- What begins a line does not matter if it is blank. -/
theorem lineName?_of_blanks {blanks : List Char}
    (blank : ∀ char ∈ blanks, Text.isBlank char = true) (line : List Char) :
    lineName? (blanks ++ line) = lineName? line := by
  have same : Text.trimStart (blanks ++ line) = Text.trimStart line :=
    List.dropWhile_append_of_pos blank
  rw [lineName?, same]
  rfl

theorem lineName?_of_isIdentifier (identifier : Text.isIdentifier name = true)
    (stops : ∀ char ∈ rest.head?, Text.continuesIdentifier char = false) :
    lineName? (name.toList ++ rest) =
      nameAfterWord? (if name = "static" then Text.trimStart rest
        else name.toList ++ rest) := by
  simp only [lineName?, Text.trimStart_append_of_isIdentifier identifier,
    Text.readName_append identifier stops, String.ofList_toList]

/-- A word that declares nothing. -/
theorem lineName?_of_word (identifier : Text.isIdentifier name = true)
    (plain : name ∉ "static" :: declaringWords)
    (stops : ∀ char ∈ rest.head?, Text.continuesIdentifier char = false) :
    lineName? (name.toList ++ rest) = none := by
  rw [List.mem_cons, not_or] at plain
  rw [lineName?_of_isIdentifier identifier stops, if_neg plain.1]
  apply nameAfterWord?_eq_none (Text.readName_append identifier stops)
  rw [String.ofList_toList]
  exact .inl plain.2

/-- A line that uses a variable declares nothing, even if the variable is named by a
word that declares something. -/
theorem lineName?_of_use (identifier : Text.isIdentifier name = true)
    (stops : ∀ char ∈ rest.head?, Text.continuesIdentifier char = false)
    (used : rest.head?.any Text.isBlank = false ∨
      (Text.trimStart rest).head? = some '=') :
    lineName? (name.toList ++ rest) = none := by
  have assigns : Text.continuesIdentifier '=' = false :=
    Text.continuesIdentifier_of_mem_marks (by decide)
  rw [lineName?_of_isIdentifier identifier stops]
  split
  · apply nameAfterWord?_of_stop
    rcases used with joined | assigned
    · cases rest with
      | nil => simp [Text.trimStart]
      | cons first others =>
          have visible : Text.isBlank first = false := by simpa using joined
          simpa [Text.trimStart, visible] using stops
    · simp [assigned, assigns]
  · apply nameAfterWord?_eq_none (Text.readName_append identifier stops)
    rcases used with joined | assigned
    · exact .inr (.inl joined)
    · exact .inr (.inr (by rw [assigned]; decide))

theorem endsName_of_continuesIdentifier {char : Char}
    (continues : Text.continuesIdentifier char = true) :
    endsName char = false := by
  have marked : ∀ char ∈ [':', '=', '(', '\x7b', ';', '#'], char ∈ Text.marks := by
    simp [Text.marks]
  have apart : char ∉ [':', '=', '(', '\x7b', ';', '#'] := fun among => by
    simp [Text.continuesIdentifier_of_mem_marks (marked char among)] at continues
  rw [endsName, Text.isBlank_of_continuesIdentifier continues, decide_eq_false apart]
  rfl

theorem isIdentifier_of_mem_words {word : String}
    (among : word ∈ "static" :: declaringWords) :
    Text.isIdentifier word = true := by
  have words : ∀ word ∈ "static" :: declaringWords, Text.isIdentifier word = true := by
    decide +kernel
  exact words word among

/-- A name that ends is declared by the word before it. -/
theorem nameAfterWord?_declaration {word : String} (declares : word ∈ declaringWords)
    (identifier : Text.isIdentifier name = true)
    (ends : ∀ char ∈ rest.head?, endsName char = true) :
    nameAfterWord? (word.toList ++ ' ' :: (name.toList ++ rest)) = some name := by
  have opens : Text.isIdentifier word = true :=
    isIdentifier_of_mem_words (List.mem_cons_of_mem _ declares)
  have split : Text.readName (word.toList ++ ' ' :: (name.toList ++ rest)) =
      (word.toList, ' ' :: (name.toList ++ rest)) :=
    Text.readName_append opens (by simp)
  have begins : Text.trimStart (' ' :: (name.toList ++ rest)) = name.toList ++ rest :=
    Text.trimStart_append_of_isIdentifier identifier rest
  have inside : ∀ char ∈ name.toList, (!endsName char) = true := fun char member => by
    simp [endsName_of_continuesIdentifier
      (Text.continuesIdentifier_of_mem identifier char member)]
  have stops : rest.takeWhile (fun char => !endsName char) = [] := by
    cases rest with
    | nil => rfl
    | cons first others => exact List.takeWhile_cons_of_neg (by simp [ends first rfl])
  have named : (name.toList ++ rest).takeWhile (fun char => !endsName char) =
      name.toList := by
    rw [List.takeWhile_append_of_pos inside, stops, List.append_nil]
  have filled : name.toList ≠ [] := by
    simpa using Text.ne_empty_of_isIdentifier identifier
  simp only [nameAfterWord?, split, begins, named, String.ofList_toList]
  exact if_pos ⟨declares, rfl, filled⟩

theorem lineName?_declaration {word : String} (declares : word ∈ declaringWords)
    (identifier : Text.isIdentifier name = true)
    (ends : ∀ char ∈ rest.head?, endsName char = true) :
    lineName? (word.toList ++ ' ' :: (name.toList ++ rest)) = some name := by
  have opens : Text.isIdentifier word = true :=
    isIdentifier_of_mem_words (List.mem_cons_of_mem _ declares)
  have plain : word ≠ "static" := ne_of_mem_of_not_mem declares (by decide)
  rw [lineName?_of_isIdentifier opens (by simp), if_neg plain]
  exact nameAfterWord?_declaration declares identifier ends

theorem lineName?_static {word : String} (declares : word ∈ declaringWords)
    (identifier : Text.isIdentifier name = true)
    (ends : ∀ char ∈ rest.head?, endsName char = true) :
    lineName? ("static".toList ++
      ' ' :: (word.toList ++ ' ' :: (name.toList ++ rest))) = some name := by
  have follows (text : List Char) : Text.trimStart (' ' :: (word.toList ++ text)) =
      word.toList ++ text :=
    Text.trimStart_append_of_isIdentifier
      (isIdentifier_of_mem_words (List.mem_cons_of_mem _ declares)) text
  rw [lineName?_of_isIdentifier (isIdentifier_of_mem_words List.mem_cons_self)
    (by simp), if_pos rfl, follows]
  exact nameAfterWord?_declaration declares identifier ends

/-- Every opening of a declaration declares the name after it. -/
theorem lineName?_opening (kind : DeclarationKind)
    (identifier : Text.isIdentifier name = true) (ending : String)
    (ends : ∀ char ∈ ending.toList.head?, char ∈ nameEnds) :
    lineName? (kind.opening ++ (name ++ ending)).toList = some name := by
  have marks : nameEnds.all endsName = true := by decide
  have stops : ∀ char ∈ ending.toList.head?, endsName char = true :=
    fun char first => List.all_eq_true.mp marks char (ends char first)
  have plain {opening word : String} (declares : word ∈ declaringWords)
      (opened : opening = word ++ " ") :
      lineName? (opening ++ (name ++ ending)).toList = some name := by
    rw [opened]
    simp only [String.toList_append, List.append_assoc]
    exact lineName?_declaration declares identifier stops
  have static : "static func " = "static" ++ " " ++ ("func" ++ " ") := by decide
  cases kind with
  | globalClass => exact plain (by decide : "class_name" ∈ declaringWords) (by decide)
  | innerClass => exact plain (by decide : "class" ∈ declaringWords) (by decide)
  | «variable» => exact plain (by decide : "var" ∈ declaringWords) (by decide)
  | function => exact plain (by decide : "func" ∈ declaringWords) (by decide)
  | staticFunction =>
      rw [DeclarationKind.opening, static]
      simp only [String.toList_append, List.append_assoc]
      exact lineName?_static (by decide : "func" ∈ declaringWords) identifier stops

end Lines

/-! ## Steps -/

/-- The names that the lines of steps declare at a depth. -/
def namesAt (depth : Nat) (steps : List Step) : List String :=
  (linesAt depth steps).filterMap lineName?

/-- The names that a remark declares in the lines after its first. -/
def leakedNames (remark : String) : List String :=
  (remark.toList.splitOn '\n').tail.filterMap lineName?

section Steps

variable {before : String}

theorem lineName?_nil : lineName? [] = none := by decide

theorem declaredNames_layout (steps : List Step) :
    declaredNames (layout steps).toList = namesAt 0 steps := by
  rw [declaredNames, splitOn_layout, List.filterMap_append, namesAt]
  simp [lineName?_nil]

@[simp] theorem namesAt_nil (depth : Nat) : namesAt depth [] = [] := by
  simp [namesAt]

@[simp] theorem namesAt_append (depth : Nat) (left right : List Step) :
    namesAt depth (left ++ right) = namesAt depth left ++ namesAt depth right := by
  simp [namesAt]

theorem namesAt_cons (depth : Nat) (first : Step) (rest : List Step) :
    namesAt depth (first :: rest) = namesAt depth [first] ++ namesAt depth rest :=
  namesAt_append depth [first] rest

theorem namesAt_flatMap {α : Type} (depth : Nat) (steps : α → List Step)
    (values : List α) :
    namesAt depth (values.flatMap steps) = values.flatMap fun value =>
      namesAt depth (steps value) := by
  simp only [namesAt, linesAt_flatMap, List.filterMap_flatMap]

theorem declaredNames_of_feedless {text : List Char} (feedless : '\n' ∉ text) :
    declaredNames text = (lineName? text).toList := by
  rw [declaredNames, List.splitOn_eq_singleton feedless, List.filterMap_cons,
    List.filterMap_nil]
  cases lineName? text <;> rfl

/-- A line declares the same at every depth: the indentation is before its first
line. -/
theorem namesAt_line (depth : Nat) (text : String) :
    namesAt depth [.line text] = declaredNames text.toList := by
  rw [namesAt, linesAt_line, declaredNames]
  by_cases empty : text = ""
  · rw [empty]
    rfl
  · have blanks : ∀ char ∈ (indentation depth).toList, Text.isBlank char = true :=
      fun char member => (isBlank_indentation member).1
    have single : '\n' ∉ (indentation depth).toList :=
      fun member => (isBlank_indentation member).2 rfl
    obtain ⟨first, rest, lines⟩ :=
      List.exists_cons_of_ne_nil (List.splitOn_ne_nil '\n' text.toList)
    rw [toList_entry empty, splitOn_append_of_feedless single, lines,
      List.filterMap_cons, List.filterMap_cons, List.headD_cons,
      lineName?_of_blanks blanks, List.tail_cons]

theorem namesAt_line_eq_nil {text : String} (feedless : '\n' ∉ text.toList)
    (undeclared : lineName? text.toList = none)
    (depth : Nat) : namesAt depth [.line text] = [] := by
  rw [namesAt_line, declaredNames_of_feedless feedless, undeclared]
  rfl

theorem namesAt_declaration (kind : DeclarationKind) {name ending : String}
    (identifier : Text.isIdentifier name = true)
    (ends : ∀ char ∈ ending.toList.head?, char ∈ nameEnds)
    (single : '\n' ∉ ending.toList) (depth : Nat) :
    namesAt depth [.line (kind.opening ++ (name ++ ending))] = [name] := by
  have opened : '\n' ∉ kind.opening.toList := by cases kind <;> decide
  have feedless :=
    feedless_append opened
      (feedless_append (feedless_of_isIdentifier identifier) single)
  rw [namesAt_line, declaredNames_of_feedless feedless,
    lineName?_opening kind identifier ending ends]
  rfl

/-- A line that declares an identifier as something, and has no line feed after it. -/
structure Declares (kind : DeclarationKind) (name line : String) : Prop where
  identifier : Text.isIdentifier name = true
  ending : ∃ ending : String, line = kind.opening ++ (name ++ ending) ∧
    (∀ char ∈ ending.toList.head?, char ∈ nameEnds) ∧ '\n' ∉ ending.toList

theorem Declares.namesAt_eq {kind : DeclarationKind} {name line : String}
    (declares : Declares kind name line)
    (depth : Nat) : namesAt depth [.line line] = [name] := by
  obtain ⟨identifier, ending, rfl, ends, single⟩ := declares
  exact namesAt_declaration kind identifier ends single depth

theorem namesAt_block (depth : Nat) (header : String) (body : List Step) :
    namesAt depth [.block header body] = namesAt depth [.line (header ++ ":")] ++
      namesAt (depth + 1) body := by
  simp [namesAt, linesAt_block]

theorem namesAt_indented (depth : Nat) (body : List Step) :
    namesAt depth [.indented body] = namesAt (depth + 1) body := by
  simp [namesAt, linesAt, entriesOf_cons, Step.entries]

@[simp] theorem namesAt_blank (depth : Nat) : namesAt depth [.blank] = [] := by
  simp [namesAt, linesAt, entriesOf_cons, Step.entries, lineName?_nil]

theorem declaredNames_of_comment {text : List Char} (opens : isComment text = true)
    (feedless : '\n' ∉ text) :
    declaredNames text = [] := by
  rw [declaredNames_of_feedless feedless, lineName?_of_comment opens]
  rfl

/-- Documentation declares nothing, whatever it is. -/
@[simp] theorem namesAt_doc (depth : Nat) (text : String) :
    namesAt depth [.doc text] = [] := by
  have printed : namesAt depth [.doc text] =
      (docLines text).flatMap fun line => namesAt depth [.line line] := by
    simp [namesAt, linesAt, entriesOf_cons, Step.entries, List.flatMap_map,
      List.filterMap_flatMap]
  rw [printed, List.flatMap_eq_nil_iff]
  intro line among
  obtain ⟨opens, single⟩ := comment_of_mem_docLines among
  rw [namesAt_line, declaredNames_of_comment opens single]

/-- A remark declares what it has after its first line. -/
theorem declaredNames_remark (opens : isComment before.toList = true)
    (single : '\n' ∉ before.toList) (remark : String) :
    declaredNames (before ++ remark).toList = leakedNames remark := by
  rw [declaredNames, String.toList_append, splitOn_append_of_feedless single,
    List.filterMap_cons, lineName?_of_comment (isComment_append opens _)]
  rfl

theorem leakedNames_append (single : '\n' ∉ before.toList) (remark : String) :
    leakedNames (before ++ remark) = leakedNames remark := by
  rw [leakedNames, String.toList_append, splitOn_append_of_feedless single]
  rfl

theorem leakedNames_of_feedless {remark : String} (single : '\n' ∉ remark.toList) :
    leakedNames remark = [] := by
  rw [leakedNames, List.splitOn_eq_singleton single]
  rfl

end Steps

end GodotSdk.Script
