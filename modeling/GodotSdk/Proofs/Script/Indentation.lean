import GodotSdk.Proofs.Script.CodeLines
import Mathlib.Data.List.Basic

/-!
# Indentation

A tree of steps that is written at some depth adds what it adds at the left margin, with
the indentation of that depth before every line that is not empty. For this the texts of
single lines have to be single lines: texts that are cut into lines, and documentation,
may have any line feeds.
-/

namespace GodotSdk.Script

/-! ## Steps of single lines -/

mutual
/-- The lines and the headers of a step have no line feeds. -/
def Step.Feedless : Step → Prop
  | .line text => '\n' ∉ text.toList
  | .lines _ | .doc _ | .blank => True
  | .block header body => '\n' ∉ header.toList ∧ FeedlessAll body
  | .indented body => FeedlessAll body

/-- The lines and the headers of steps have no line feeds. -/
def FeedlessAll : List Step → Prop
  | [] => True
  | first :: rest => first.Feedless ∧ FeedlessAll rest
end

mutual
theorem feedless_of_mem_entries {depth : Nat} {step : Step} (feedless : step.Feedless) :
    ∀ line ∈ step.entries depth, '\n' ∉ line.toList := by
  cases step with
  | line text =>
      rw [Step.entries, List.forall_mem_singleton]
      exact feedless_entry (by simpa [Step.Feedless] using feedless) depth
  | lines text =>
      rw [Step.entries, List.forall_mem_map]
      intro line among
      have single := Text.feedless_of_mem_lines among
      exact feedless_entry (by rwa [String.toList_ofList]) depth
  | doc text =>
      rw [Step.entries, List.forall_mem_map]
      intro line among
      exact feedless_entry (comment_of_mem_docLines among).2 depth
  | blank =>
      rw [Step.entries, List.forall_mem_singleton]
      exact List.not_mem_nil
  | block header body =>
      obtain ⟨single, inside⟩ := by simpa only [Step.Feedless] using feedless
      rw [Step.entries, List.forall_mem_cons]
      exact ⟨feedless_entry (feedless_append single (by decide)) depth,
        feedless_of_mem_entriesOf inside⟩
  | indented body =>
      rw [Step.entries]
      exact feedless_of_mem_entriesOf (by simpa only [Step.Feedless] using feedless)

/-- What is printed for single lines are single lines. -/
theorem feedless_of_mem_entriesOf {depth : Nat} {steps : List Step}
    (feedless : FeedlessAll steps) :
    ∀ line ∈ entriesOf depth steps, '\n' ∉ line.toList := by
  cases steps with
  | nil => simp
  | cons first rest =>
      obtain ⟨begins, follows⟩ := by simpa only [FeedlessAll] using feedless
      rw [entriesOf_cons, List.forall_mem_append]
      exact ⟨feedless_of_mem_entries begins, feedless_of_mem_entriesOf follows⟩
end

/-! ## Deeper steps -/

theorem indentation_add (outer depth : Nat) :
    indentation (outer + depth) = indentation outer ++ indentation depth := by
  apply String.toList_injective
  simp [indentation, Nat.mul_add, List.replicate_append_replicate]

@[simp] theorem entry_empty (depth : Nat) : entry depth "" = "" := rfl

/-- An indented line is indented further by the levels around it. -/
theorem entry_entry (outer depth : Nat) (text : String) :
    entry outer (entry depth text) = entry (outer + depth) text := by
  by_cases empty : text = ""
  · simp [empty]
  · simp [entry, empty, indentation_add, String.append_assoc]

mutual
theorem Step.entries_add (outer depth : Nat) (step : Step) :
    step.entries (outer + depth) = (step.entries depth).map (entry outer) := by
  cases step with
  | line text => simp [Step.entries, entry_entry]
  | lines text => simp [Step.entries, entry_entry]
  | doc text => simp [Step.entries, entry_entry]
  | blank => simp [Step.entries]
  | block header body =>
      have inside := entriesOf_add outer (depth + 1) body
      simp only [Step.entries, List.map_cons, entry_entry, Nat.add_assoc, inside]
  | indented body =>
      have inside := entriesOf_add outer (depth + 1) body
      simp only [Step.entries, Nat.add_assoc, inside]

/-- What steps print further inside is what they print, indented by the levels around
them. -/
theorem entriesOf_add (outer depth : Nat) (steps : List Step) :
    entriesOf (outer + depth) steps = (entriesOf depth steps).map (entry outer) := by
  cases steps with
  | nil => simp
  | cons first rest =>
      rw [entriesOf_cons, entriesOf_cons, List.map_append,
        Step.entries_add outer depth first, entriesOf_add outer depth rest]
end

/-! ## Indented texts -/

/-- A text with some levels of indentation before every line that is not empty. -/
def indentLines (depth : Nat) (text : String) : String :=
  "\n".intercalate ((text.toList.splitOn '\n').map fun line =>
    if line.isEmpty then ""
      else String.join (List.replicate depth indent) ++ String.ofList line)

example : indentLines 2 "if x:\n    pass\n\n" =
    "        if x:\n            pass\n\n" := by decide

theorem join_replicate_indent (depth : Nat) :
    String.join (List.replicate depth indent) = indentation depth := by
  induction depth with
  | zero => rfl
  | succ depth ih =>
      rw [List.replicate_succ, String.join_cons, ih, Nat.add_comm depth 1,
        indentation_add]
      rfl

/-- The lines of what is printed for single lines. -/
theorem splitOn_printed_of_feedless {lines : List String}
    (feedless : ∀ line ∈ lines, '\n' ∉ line.toList) :
    (printed lines).toList.splitOn '\n' = lines.map String.toList ++ [[]] := by
  have single : ∀ line ∈ lines, line.toList.splitOn '\n' = [line.toList] :=
    fun line among =>
    List.splitOn_eq_singleton (feedless line among)
  rw [splitOn_printed, List.flatMap_congr single, ← List.map_eq_flatMap]

/-- Lines with a line feed between them, and an empty line at the end, are what is
printed for them. -/
theorem intercalate_append_empty (lines : List String) :
    "\n".intercalate (lines ++ [""]) = printed lines := by
  induction lines with
  | nil => rfl
  | cons line rest ih =>
      rw [List.cons_append, String.intercalate_cons_of_ne_nil (by simp), ih,
        printed_cons]

/-- Indenting what is printed for single lines indents each of them. -/
theorem indentLines_printed (depth : Nat) {lines : List String}
    (feedless : ∀ line ∈ lines, '\n' ∉ line.toList) :
    indentLines depth (printed lines) = printed (lines.map (entry depth)) := by
  have indented (line : List Char) :
      (if line.isEmpty then ""
        else String.join (List.replicate depth indent) ++ String.ofList line) =
        entry depth (String.ofList line) := by
    rw [entry, join_replicate_indent]
    cases line <;> simp
  have cut : (printed lines).toList.splitOn '\n' = lines.map String.toList ++ [[]] :=
    splitOn_printed_of_feedless feedless
  simp only [indentLines, cut, indented]
  rw [← intercalate_append_empty]
  simp [Function.comp_def]

/-- Steps of single lines add the same text at every depth, but for the indentation:
what they add at the left margin, with so many levels before every line that is not
empty. The depth is as before, and so is the text so far. -/
theorem steps_indented {steps : List Step} (feedless : FeedlessAll steps)
    (writer : Writer) :
    (∀ margin : Writer, margin.depth = 0 →
      (margin.steps steps).text = margin.text ++ layout steps) ∧
      (writer.steps steps).text =
        writer.text ++ indentLines writer.depth (layout steps) ∧
      (writer.steps steps).depth = writer.depth := by
  have inside := entriesOf_add writer.depth 0 steps
  have single : ∀ line ∈ entriesOf 0 steps, '\n' ∉ line.toList :=
    feedless_of_mem_entriesOf feedless
  refine ⟨?_, ?_, ?_⟩
  · intro margin left
    rw [Writer.steps_eq, left, layout_eq]
    rfl
  · rw [Writer.steps_eq, layout_eq, indentLines_printed _ single, ← inside]
    rfl
  · rw [Writer.steps_eq, Writer.depth_print]

/-- Steps of every kind, with texts that are cut into lines, an empty line among them,
and a paragraph that is wrapped. -/
def nestedSteps : List Step := [
  .block "func f()" [
    .doc
      "Returns.\r\n\nThe paragraph that follows an empty one is so long that it does not fit on one line of columns.",
    .block "if x" [.line "pass", .line ""],
    .blank,
    .lines "if y:\n    return\n\nelse:\n    pass"],
  .indented [.indented [.line "x"], .line ")"]]

theorem steps_indented_nestedSteps :
    FeedlessAll nestedSteps ∧
      ((⟨"class A:\n", 2⟩ : Writer).steps nestedSteps).text = "class A:\n" ++
        indentLines 2 (layout nestedSteps) ∧
      ((⟨"class A:\n", 2⟩ : Writer).steps nestedSteps).depth = 2 := by
  have feedless : FeedlessAll nestedSteps := by
    simp [nestedSteps, FeedlessAll, Step.Feedless]
  exact ⟨feedless, (steps_indented feedless ⟨"class A:\n", 2⟩).2⟩

end GodotSdk.Script
