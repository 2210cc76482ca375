import GodotSdk.Script.Layout

/-!
# Script code

The expressions and statements that generated functions are made of, and how they are
printed. A text is written as a string literal that is always on one line.
-/

namespace GodotSdk.Script

/-! ## String literals -/

/-- One character of a string literal. -/
def quoteChar (char : Char) : List Char :=
  match char with
  | '"' => ['\\', '"']
  | '\\' => ['\\', '\\']
  | '\n' => ['\\', 'n']
  | '\r' => ['\\', 'r']
  | '\t' => ['\\', 't']
  | char => [char]

/-- A text as a string literal. -/
def quote (text : String) : String :=
  String.ofList ('"' :: (text.toList.flatMap quoteChar ++ ['"']))

/-! ## Expressions and statements -/

inductive Expr
  /-- A string literal. -/
  | text (value : String)
  /-- The empty dictionary. -/
  | emptyDictionary
  | null
  /-- A variable, or a class by its full name. -/
  | variable (name : String)
  /-- A field of an object. -/
  | field (object : Expr) (label : String)
  /-- The value at a key of a dictionary. -/
  | index (object key : Expr)
  /-- A method call. -/
  | invoke (object : Expr) (method : String) (arguments : List Expr)
  /-- A dictionary with its entries. -/
  | dictionary (entries : List (Expr × Expr))
  | not (operand : Expr)
  | and (left right : Expr)

inductive Statement
  /-- Declare a variable whose type is that of its first value. -/
  | declare (name : String) (value : Expr)
  | assign (target value : Expr)
  /-- Evaluate an expression for its effect. -/
  | perform (value : Expr)
  /-- Call a function that is not a method. -/
  | call (function : String) (arguments : List Expr)
  /-- Run the first branch whose condition is true. -/
  | choose (branches : List (Expr × List Statement))
  /-- Call a method whose last argument is a function with the given parameters and
  body. -/
  | invokeWith (object : Expr) (method : String) (arguments : List Expr)
      (parameters : List String) (body : List Statement)
  | pass
  /-- Return without a value. -/
  | leave
  /-- Return a value. -/
  | answer (value : Expr)

namespace Expr

mutual
def render : Expr → String
  | .text value => quote value
  | .emptyDictionary => "\x7b\x7d"
  | .null => "null"
  | .variable label => label
  | .field object label => object.render ++ "." ++ label
  | .index object key => object.render ++ "[" ++ key.render ++ "]"
  | .invoke object method arguments =>
      object.render ++ "." ++ method ++ "(" ++
        ", ".intercalate (renderAll arguments) ++ ")"
  | .dictionary entries => "\x7b" ++ ", ".intercalate (renderEntries entries) ++ "\x7d"
  | .not operand => "not " ++ operand.render
  | .and left right => left.render ++ " and " ++ right.render

def renderAll : List Expr → List String
  | [] => []
  | first :: rest => first.render :: renderAll rest

def renderEntries : List (Expr × Expr) → List String
  | [] => []
  | (key, value) :: rest => (key.render ++ ": " ++ value.render) :: renderEntries rest
end

end Expr

/-- The word that begins a branch. -/
def branchWord (first : Bool) : String :=
  if first then "if " else "elif "

namespace Statement

mutual
/-- The layout of a statement. -/
def steps : Statement → List Step
  | .declare name value => [.line ("var " ++ name ++ " := " ++ value.render)]
  | .assign target value => [.line (target.render ++ " = " ++ value.render)]
  | .perform value => [.line value.render]
  | .call function arguments =>
      [.line (function ++ "(" ++ ", ".intercalate (Expr.renderAll arguments) ++ ")")]
  | .choose branches => branchSteps true branches
  | .invokeWith object method arguments parameters body =>
      [.line (object.render ++ "." ++ method ++ "("
          ++ String.join ((Expr.renderAll arguments).map (· ++ ", "))
          ++ "func(" ++ ", ".intercalate parameters ++ "):"),
        .indented (stepsAll body),
        .line ")"]
  | .pass => [.line "pass"]
  | .leave => [.line "return"]
  | .answer value => [.line ("return " ++ value.render)]

/-- The layout of statements in order. -/
def stepsAll : List Statement → List Step
  | [] => []
  | first :: rest => first.steps ++ stepsAll rest

/-- The layout of branches, of which the first begins with a word of its own. -/
def branchSteps (first : Bool) : List (Expr × List Statement) → List Step
  | [] => []
  | (condition, body) :: rest =>
      .block (branchWord first ++ condition.render) (stepsAll body) ::
        branchSteps false rest
end

/-- A statement that runs if a condition is true. -/
def when (condition : Expr) (body : List Statement) : Statement :=
  .choose [(condition, body)]

end Statement

end GodotSdk.Script
