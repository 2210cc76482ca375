import GodotSdk.Script.Layout

/-!
# What a layout prints

A writer adds to the text it has, and is as deep after a list of steps as before. What
it adds is a sequence of entries, each followed by a line feed, which depends on the
steps and on the depth alone.
-/

namespace GodotSdk.Script

/-- What a writer prints for a line, without the line feed. -/
def entry (depth : Nat) (text : String) : String :=
  if text.isEmpty then "" else indentation depth ++ text

/-- Entries with their line feeds. -/
def printed (entries : List String) : String :=
  String.join (entries.map (· ++ "\n"))

mutual
/-- The entries that a step adds at a depth. -/
def Step.entries (depth : Nat) : Step → List String
  | .line text => [entry depth text]
  | .lines text =>
      (Text.lines text.toList).map fun line => entry depth (String.ofList line)
  | .doc text => (docLines text).map (entry depth)
  | .blank => [""]
  | .block header body => entry depth (header ++ ":") :: entriesOf (depth + 1) body
  | .indented body => entriesOf (depth + 1) body

/-- The entries that steps add at a depth. -/
def entriesOf (depth : Nat) : List Step → List String
  | [] => []
  | first :: rest => first.entries depth ++ entriesOf depth rest
end

@[simp] theorem printed_nil : printed [] = "" := rfl

theorem printed_cons (entry : String) (rest : List String) :
    printed (entry :: rest) = entry ++ "\n" ++ printed rest := by
  simp [printed]

@[simp] theorem printed_append (left right : List String) :
    printed (left ++ right) = printed left ++ printed right := by
  simp [printed]

@[simp] theorem entriesOf_nil (depth : Nat) : entriesOf depth [] = [] := by
  rw [entriesOf]

theorem entriesOf_cons (depth : Nat) (first : Step) (rest : List Step) :
    entriesOf depth (first :: rest) = first.entries depth ++ entriesOf depth rest := by
  rw [entriesOf]

@[simp] theorem entriesOf_append (depth : Nat) (left right : List Step) :
    entriesOf depth (left ++ right) = entriesOf depth left ++
      entriesOf depth right := by
  induction left with
  | nil => simp
  | cons first rest ih => simp [entriesOf_cons, ih]

namespace Writer

/-- The writer after it has printed entries. -/
def print (writer : Writer) (entries : List String) : Writer :=
  { writer with text := writer.text ++ printed entries }

@[simp] theorem print_nil (writer : Writer) : writer.print [] = writer := by
  simp [print]

@[simp] theorem print_print (writer : Writer) (first second : List String) :
    (writer.print first).print second = writer.print (first ++ second) := by
  simp [print, String.append_assoc]

@[simp] theorem depth_print (writer : Writer) (entries : List String) :
    (writer.print entries).depth = writer.depth := rfl

theorem line_eq (writer : Writer) (text : String) :
    writer.line text = writer.print [entry writer.depth text] := by
  unfold line entry print
  cases text.isEmpty <;> simp [printed_cons]

theorem lines_eq (writer : Writer) (texts : List String) :
    writer.lines texts = writer.print (texts.map (entry writer.depth)) := by
  induction texts generalizing writer with
  | nil => simp [lines]
  | cons text rest ih =>
      have first : writer.lines (text :: rest) = (writer.line text).lines rest := rfl
      rw [first, ih, line_eq]
      simp

/-- What is printed one level deeper is printed all the same. -/
theorem shallower_print_deeper (writer : Writer) (entries : List String) :
    (writer.deeper.print entries).shallower = writer.print entries := rfl

mutual
theorem step_eq (writer : Writer) (step : Step) :
    writer.step step = writer.print (step.entries writer.depth) := by
  cases step with
  | line text => rw [Writer.step, line_eq, Step.entries]
  | lines text => rw [Writer.step, lines_eq, Step.entries, List.map_map]; rfl
  | doc text => rw [Writer.step, lines_eq, Step.entries]
  | blank => rw [Writer.step, line_eq, Step.entries]; rfl
  | block header body =>
      rw [Writer.step, steps_eq _ body, shallower_print_deeper, line_eq, print_print,
        Step.entries]
      rfl
  | indented body =>
      rw [Writer.step, steps_eq _ body, shallower_print_deeper, Step.entries]; rfl

/-- Steps print their entries, and leave the depth as it was. -/
theorem steps_eq (writer : Writer) (steps : List Step) :
    writer.steps steps = writer.print (entriesOf writer.depth steps) := by
  cases steps with
  | nil => simp [Writer.steps]
  | cons first rest =>
      rw [Writer.steps, step_eq _ first, steps_eq _ rest, print_print,
        entriesOf_cons]; rfl
end

end Writer

theorem layout_eq (steps : List Step) : layout steps = printed (entriesOf 0 steps) := by
  simp [layout, Writer.steps_eq, Writer.print, Writer.empty]

end GodotSdk.Script
