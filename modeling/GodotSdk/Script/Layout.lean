import GodotSdk.Schema.Api
import GodotSdk.Text.Wrap

/-!
# Layout of scripts

A script is laid out in steps. Lines are indented by the depth at which they stand,
where blocks are one level deeper than their header. Documentation is wrapped into
comment lines.
-/

namespace GodotSdk.Script

/-- A step in the layout of a script. -/
inductive Step
  /-- One line. -/
  | line (text : String)
  /-- The lines of a text. -/
  | lines (text : String)
  /-- A documentation comment. -/
  | doc (text : String)
  /-- An empty line. -/
  | blank
  /-- A line that ends with a colon, and steps one level deeper. -/
  | block (header : String) (body : List Step)
  /-- Steps one level deeper. -/
  | indented (body : List Step)

/-- The text of a script so far, and the depth of what comes next. -/
structure Writer where
  text : String
  depth : Nat

/-- One level of indentation. -/
def indent : String := "    "

/-- The indentation at a depth. -/
def indentation (depth : Nat) : String :=
  String.ofList (List.replicate (4 * depth) ' ')

/-- The columns of a documentation comment, not counting its indentation and marks. -/
def docWidth : Nat := 80

/-- The comment lines for one paragraph of documentation. -/
def paragraphLines (paragraph : List Char) : List (List Char) :=
  let paragraph := Text.trim paragraph
  if paragraph.isEmpty then ["##".toList]
  else (Text.wrap docWidth paragraph).map fun line => "## ".toList ++ line

/-- The comment lines for a documentation text. -/
def docLines (text : String) : List String :=
  ((Text.lines text.toList).flatMap paragraphLines).map String.ofList

namespace Writer

/-- The start of a script. -/
def empty : Writer := ⟨"", 0⟩

/-- Write a line. Empty lines are not indented. -/
def line (writer : Writer) (text : String) : Writer :=
  let text := if text.isEmpty then "\n" else indentation writer.depth ++ text ++ "\n"
  { writer with text := writer.text ++ text }

/-- Write several lines. -/
def lines (writer : Writer) (texts : List String) : Writer :=
  texts.foldl line writer

def deeper (writer : Writer) : Writer :=
  { writer with depth := writer.depth + 1 }

def shallower (writer : Writer) : Writer :=
  { writer with depth := writer.depth - 1 }

mutual
/-- Perform a step. -/
def step (writer : Writer) : Step → Writer
  | .line text => writer.line text
  | .lines text => writer.lines ((Text.lines text.toList).map String.ofList)
  | .doc text => writer.lines (docLines text)
  | .blank => writer.line ""
  | .block header body => (steps (writer.line (header ++ ":")).deeper body).shallower
  | .indented body => (steps writer.deeper body).shallower

/-- Perform steps in order. -/
def steps (writer : Writer) : List Step → Writer
  | [] => writer
  | first :: rest => steps (step writer first) rest
end

end Writer

/-- The text of a script by itself. -/
def layout (steps : List Step) : String :=
  (Writer.empty.steps steps).text

/-! ## Annotations

The comments on a generated item: its description, and a note if it is obsolete. -/

/-- The line at the top of every generated script. -/
def banner : String := "# Generated by gdgen. Do not edit."

/-- The note on an obsolete item. -/
def obsoleteNote (obsolete : Obsolete) : String :=
  match obsolete.severity with
  | .warning => "## [Obsolete: " ++ obsolete.message ++ "]"
  | .error => "## [Obsolete(error): " ++ obsolete.message ++ "]"

/-- The note on an item, if it is obsolete. -/
def obsoleteSteps (obsolete : Option Obsolete) : List Step :=
  match obsolete with
  | some obsolete => [.line (obsoleteNote obsolete)]
  | none => []

/-- A description, if there is one. -/
def descriptionSteps (description : Option String) : List Step :=
  match description with
  | some text => [.doc text]
  | none => []

/-- The first lines of a script: what it is for, the banner and its class. -/
def scriptHeader (description className : String) : List Step := [
  .doc description,
  .line banner,
  .line ("class_name " ++ className),
  .line "extends RefCounted"]

end GodotSdk.Script
