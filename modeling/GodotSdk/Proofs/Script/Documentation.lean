import GodotSdk.Proofs.Script.CodeLines
import GodotSdk.Proofs.Text.WrappedLines

/-!
# Documentation

The comment lines for a text say all of it, in order, but for its blanks. Each line that
says something is no wider than the width of documentation, and each paragraph that says
nothing is one bare comment mark.
-/

namespace GodotSdk

namespace Text

/-! ## Visible characters -/

/-- The characters of a text other than blanks. -/
def visible (text : List Char) : List Char :=
  text.filter fun char => !isBlank char

@[simp] theorem visible_nil : visible [] = [] := rfl

@[simp] theorem visible_append (left right : List Char) :
    visible (left ++ right) = visible left ++ visible right :=
  List.filter_append ..

theorem visible_eq_nil_iff {text : List Char} :
    visible text = [] ↔ ∀ char ∈ text, isBlank char = true := by
  simp [visible]

@[simp] theorem visible_withoutSpaces (text : List Char) :
    visible (withoutSpaces text) = visible text := by
  have space : isBlank ' ' = true := by decide
  rw [visible, withoutSpaces, List.filter_filter]
  refine List.filter_congr fun char _ => ?_
  by_cases same : char = ' '
  · simp [same, space]
  · simp [same]

theorem visible_closeLine (reversed : List Char) :
    visible (closeLine reversed) = visible reversed.reverse := by
  unfold closeLine
  split
  · have mark : visible ['\r'] = [] := by decide
    rw [List.reverse_cons, visible_append, mark, List.append_nil]
  · rfl

theorem flatMap_visible_linesFrom (reversed text : List Char) :
    (linesFrom reversed text).flatMap visible = visible (reversed.reverse ++ text) := by
  induction reversed, text using linesFrom.induct with
  | case1 reversed empty => simp_all [linesFrom]
  | case2 reversed pending => simp [linesFrom, pending]
  | case3 reversed rest ih =>
      have mark : visible ('\n' :: rest) = visible rest := rfl
      rw [linesFrom, List.flatMap_cons, ih, visible_closeLine,
        visible_append reversed.reverse, mark]
      rfl
  | case4 reversed char rest different ih =>
      rw [linesFrom, ih]
      · simp
      · exact different

/-- Cutting a text into lines loses no visible character. -/
theorem flatMap_visible_lines (text : List Char) :
    (lines text).flatMap visible = visible text :=
  flatMap_visible_linesFrom [] text

@[simp] theorem visible_trim (text : List Char) :
    visible (trim text) = visible text := by
  obtain ⟨dropped, joined, after⟩ := trimEndWhile_append isBlank (trimStart text)
  have leading : visible (text.takeWhile isBlank) = [] :=
    visible_eq_nil_iff.mpr fun char member => List.mem_takeWhile_imp member
  calc visible (trim text)
      = visible (trim text) ++ visible dropped := by
        rw [visible_eq_nil_iff.mpr after, List.append_nil]
    _ = visible (trimStart text) := by rw [← visible_append, trim, joined]
    _ = visible (text.takeWhile isBlank) ++ visible (trimStart text) := by
      rw [leading, List.nil_append]
    _ = visible text := by
      rw [← visible_append, trimStart, List.takeWhile_append_dropWhile]

theorem visible_wrap (limit : Nat) (line : List Char) :
    visible (wrap limit line).flatten = visible line := by
  rw [← visible_withoutSpaces, withoutSpaces_wrap, visible_withoutSpaces]

theorem trim_eq_nil_iff {text : List Char} : trim text = [] ↔ visible text = [] := by
  constructor
  · intro empty
    rw [← visible_trim, empty]
    rfl
  · intro blank
    rw [visible_eq_nil_iff] at blank
    have nothing : trimStart text = [] := List.dropWhile_eq_nil_iff.mpr blank
    rw [trim, nothing]
    rfl

/-- A trimmed text is empty or begins with a visible character. -/
theorem exists_head_trim {text : List Char} (filled : trim text ≠ []) :
    ∃ first, (trim text).head? = some first ∧ isBlank first = false := by
  obtain ⟨dropped, joined, _⟩ := trimEndWhile_append isBlank (trimStart text)
  obtain ⟨first, rest, chars⟩ := List.exists_cons_of_ne_nil filled
  refine ⟨first, by rw [chars, List.head?_cons], ?_⟩
  have head : (text.dropWhile isBlank).head? = some first := by
    rw [← trimStart, ← joined, ← trim, chars]
    rfl
  have stops := List.head?_dropWhile_not isBlank text
  rw [head] at stops
  simpa using stops

end Text

namespace Script

/-- A comment line of documentation: a bare mark, or a mark and a text. -/
inductive DocLine
  | bare
  | text (rest : List Char)

namespace DocLine

/-- The line as it is printed. -/
def printed : DocLine → String
  | bare => "##"
  | text rest => "## " ++ String.ofList rest

/-- What the line says. -/
def rest : DocLine → List Char
  | bare => []
  | text rest => rest

end DocLine

theorem DocLine.printed_ne_empty (line : DocLine) : line.printed ≠ "" := by
  cases line <;> simp [printed]

/-- The comment lines for one paragraph. -/
def paragraphDocLines (paragraph : List Char) : List DocLine :=
  if (Text.trim paragraph).isEmpty then [.bare]
    else (Text.wrap docWidth (Text.trim paragraph)).map .text

/-- Wrapping keeps to the width of documentation where there are control sequences,
which can come apart at a hyphen. Everywhere else it always does. -/
def ControlsFit (text : String) : Prop :=
  ∀ paragraph ∈ Text.lines text.toList, '\x1b' ∈ paragraph →
    ∀ line ∈ Text.wrap docWidth (Text.trim paragraph), Text.displayWidth line ≤ docWidth

instance (text : String) : Decidable (ControlsFit text) :=
  inferInstanceAs (Decidable (∀ paragraph ∈ _, '\x1b' ∈ paragraph → ∀ line ∈ _, _))

/-- What the comment lines of documentation say, where `comments` has the lines for each
paragraph. A blank paragraph gives one bare mark, and no other gives any. What follows a
mark is not empty, has no line feed and keeps to the width. Together the lines say every
visible character of the text, in order. -/
structure Says (text : String) (comments : List (List DocLine)) : Prop where
  paragraphs : List.Forall₂ (fun paragraph lines =>
    (Text.visible paragraph = [] → lines = [.bare]) ∧
    (Text.visible paragraph ≠ [] → .bare ∉ lines)) (Text.lines text.toList) comments
  fits : ∀ rest, .text rest ∈ comments.flatten → rest ≠ [] ∧ '\n' ∉ rest ∧
    Text.displayWidth rest ≤ docWidth
  whole : Text.visible (comments.flatten.flatMap DocLine.rest) =
    Text.visible text.toList

theorem docLines_eq (text : String) :
    docLines text =
      ((Text.lines text.toList).flatMap paragraphDocLines).map DocLine.printed := by
  have each (paragraph : List Char) :
      (paragraphLines paragraph).map String.ofList =
        (paragraphDocLines paragraph).map DocLine.printed := by
    by_cases blank : Text.trim paragraph = []
    · simp [paragraphLines, paragraphDocLines, blank, DocLine.printed]
    · have marked (line : List Char) : String.ofList ("## ".toList ++ line) =
          (DocLine.text line).printed := by
        rw [String.ofList_append, String.ofList_toList]
        rfl
      simp only [paragraphLines, paragraphDocLines, List.isEmpty_iff, blank, if_false,
        List.map_map, Function.comp_def, marked]
  simp only [docLines, List.map_flatMap, each]

theorem paragraphDocLines_of_blank {paragraph : List Char}
    (blank : Text.visible paragraph = []) :
    paragraphDocLines paragraph = [.bare] := by
  rw [paragraphDocLines, Text.trim_eq_nil_iff.mpr blank]
  rfl

theorem paragraphDocLines_of_visible {paragraph : List Char}
    (visible : Text.visible paragraph ≠ []) :
    paragraphDocLines paragraph =
      (Text.wrap docWidth (Text.trim paragraph)).map .text := by
  have filled : (Text.trim paragraph).isEmpty = false := by
    rw [List.isEmpty_eq_false_iff]
    exact mt Text.trim_eq_nil_iff.mp visible
  rw [paragraphDocLines, filled]
  rfl

theorem visible_paragraphDocLines (paragraph : List Char) :
    Text.visible ((paragraphDocLines paragraph).flatMap DocLine.rest) =
      Text.visible paragraph := by
  by_cases blank : Text.visible paragraph = []
  · rw [paragraphDocLines_of_blank blank, blank]
    rfl
  · have said : ((Text.wrap docWidth (Text.trim paragraph)).map DocLine.text).flatMap
        DocLine.rest = (Text.wrap docWidth (Text.trim paragraph)).flatten := by
      rw [List.flatMap_map]
      exact List.flatMap_id'
    rw [paragraphDocLines_of_visible blank, said, Text.visible_wrap, Text.visible_trim]

/-- A line that says something is neither empty nor too wide. -/
theorem fits_of_mem_paragraphDocLines {paragraph rest : List Char}
    (feedless : '\n' ∉ paragraph)
    (controls : '\x1b' ∈ paragraph → ∀ line ∈ Text.wrap docWidth
      (Text.trim paragraph), Text.displayWidth line ≤ docWidth)
    (among : .text rest ∈ paragraphDocLines paragraph) :
    rest ≠ [] ∧ '\n' ∉ rest ∧ Text.displayWidth rest ≤ docWidth := by
  by_cases blank : Text.visible paragraph = []
  · rw [paragraphDocLines_of_blank blank] at among
    simp at among
  · rw [paragraphDocLines_of_visible blank] at among
    obtain ⟨wrapped, within, same⟩ := List.mem_map.mp among
    obtain rfl : wrapped = rest := by simpa using same
    obtain ⟨first, opens, shown⟩ :=
      Text.exists_head_trim (mt Text.trim_eq_nil_iff.mp blank)
    have visible : first ≠ ' ' := by
      rintro rfl
      exact absurd shown (by decide)
    have roomy : 3 ≤ docWidth := by decide
    refine ⟨Text.ne_nil_of_mem_wrap roomy opens visible within, ?_, ?_⟩
    · exact fun member =>
        feedless ((Text.trim_sublist paragraph).subset
          (Text.mem_of_mem_wrap within (by decide) member))
    · by_cases escape : '\x1b' ∈ paragraph
      · exact controls escape wrapped within
      · exact Text.displayWidth_le_of_mem_wrap roomy opens visible
          (fun member => escape ((Text.trim_sublist paragraph).subset member)) within

theorem says_paragraphDocLines {text : String} (controls : ControlsFit text) :
    Says text ((Text.lines text.toList).map paragraphDocLines) where
  paragraphs := by
    rw [List.forall₂_map_right_iff, List.forall₂_same]
    intro paragraph _
    refine ⟨paragraphDocLines_of_blank, fun visible => ?_⟩
    simp [paragraphDocLines_of_visible visible]
  fits := by
    intro rest among
    obtain ⟨lines, within, member⟩ := List.mem_flatten.mp among
    obtain ⟨paragraph, whole, rfl⟩ := List.mem_map.mp within
    exact fits_of_mem_paragraphDocLines (Text.feedless_of_mem_lines whole)
      (controls paragraph whole) member
  whole := by
    have each :=
      List.flatMap_congr fun paragraph (_ : paragraph ∈ Text.lines text.toList) =>
      visible_paragraphDocLines paragraph
    rw [← List.flatMap_def, List.flatMap_assoc, Text.visible, List.filter_flatMap]
    exact each.trans (Text.flatMap_visible_lines text.toList)

/-- Documentation adds complete lines at the current depth, which say the whole text.
The text so far is kept, and so is the depth. -/
theorem doc_says {text : String} (controls : ControlsFit text) (writer : Writer) :
    ∃ comments, Says text comments ∧
      (writer.step (.doc text)).text = writer.text ++
        String.join (comments.flatten.map fun line =>
          indentation writer.depth ++ line.printed ++ "\n") ∧
      (writer.step (.doc text)).depth = writer.depth := by
  refine ⟨_, says_paragraphDocLines controls, ?_, ?_⟩
  · have lines : ((docLines text).map (entry writer.depth)).map (· ++ "\n") =
        ((Text.lines text.toList).map paragraphDocLines).flatten.map fun line =>
          indentation writer.depth ++ line.printed ++ "\n" := by
      rw [docLines_eq, List.flatMap_def, List.map_map, List.map_map]
      refine List.map_congr_left fun line _ => ?_
      simp [entry, line.printed_ne_empty]
    rw [Writer.step_eq, Step.entries, Writer.print, printed, lines]
  · rw [Writer.step_eq, Writer.depth_print]

/-- Paragraphs with a carriage return, without a character, with blanks only, and with
control sequences, wide characters, hyphens and a run of spaces. -/
def unevenText : String :=
  "  The item.\r\n\n \t\nIts \x1b[1mname\x1b[0m (名前) is shown in bold type, as are all well-known ones that are   trans-lated."

theorem doc_says_unevenText :
    ControlsFit unevenText ∧
      ∃ comments, Says unevenText comments ∧
        ((⟨"class Item:\n", 1⟩ : Writer).step (.doc unevenText)).text =
          "class Item:\n" ++ String.join (comments.flatten.map fun line =>
            indentation 1 ++ line.printed ++ "\n") ∧
        ((⟨"class Item:\n", 1⟩ : Writer).step (.doc unevenText)).depth = 1 := by
  have controls : ControlsFit unevenText := by
    have chars : unevenText.toList = _ := String.toList_ofList
    rw [ControlsFit, chars]
    decide +kernel
  exact ⟨controls, doc_says controls ⟨"class Item:\n", 1⟩⟩

end Script

end GodotSdk
