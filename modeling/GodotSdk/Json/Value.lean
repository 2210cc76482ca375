import GodotSdk.Number.Binary64

/-!
# JSON values

JSON values whose objects keep the order of their members, and their compact text.
-/

namespace GodotSdk.Json

/-- A number: whole numbers of 64 bits with or without a sign, and doubles. -/
inductive Number
  | int (value : Int)
  | float (value : Binary64)
deriving DecidableEq, Repr

inductive Value
  | null
  | bool (value : Bool)
  | number (value : Number)
  | string (text : String)
  | array (items : List Value)
  | object (members : List (String × Value))
deriving Repr, BEq

namespace Value

/-- The value of a member, if this is an object that has it. -/
def get? (value : Value) (key : String) : Option Value :=
  match value with
  | .object members => members.lookup key
  | _ => none

/-- The text of a string value. -/
def text? : Value → Option String
  | .string text => some text
  | _ => none

end Value

/-- Floats are written with a point from `1e-5` up to `1e16` and with an exponent
elsewhere. -/
def Number.render : Number → String
  | .int value => toString value
  | .float value => value.render (-5) 16

/-- Two hexadecimal digits. -/
def hexByte (code : Nat) : List Char :=
  [Nat.digitChar (code / 16), Nat.digitChar (code % 16)]

/-- One character of a JSON string. -/
def escapeChar (char : Char) : List Char :=
  match char with
  | '"' => ['\\', '"']
  | '\\' => ['\\', '\\']
  | '\x08' => ['\\', 'b']
  | '\x0c' => ['\\', 'f']
  | '\n' => ['\\', 'n']
  | '\r' => ['\\', 'r']
  | '\t' => ['\\', 't']
  | _ => if char < ' ' then ['\\', 'u', '0', '0'] ++ hexByte char.toNat else [char]

/-- A JSON string. -/
def renderText (text : String) : List Char :=
  '"' :: (text.toList.flatMap escapeChar ++ ['"'])

mutual
/-- The compact text of a value. -/
def Value.chars : Value → List Char
  | .null => "null".toList
  | .bool true => "true".toList
  | .bool false => "false".toList
  | .number value => value.render.toList
  | .string text => renderText text
  | .array items => '[' :: (itemChars items ++ [']'])
  | .object members => '\x7b' :: (memberChars members ++ ['\x7d'])

/-- The values of an array, separated by commas. -/
def itemChars : List Value → List Char
  | [] => []
  | [item] => item.chars
  | item :: rest => item.chars ++ ',' :: itemChars rest

/-- The members of an object, separated by commas. -/
def memberChars : List (String × Value) → List Char
  | [] => []
  | [(key, value)] => renderText key ++ ':' :: value.chars
  | (key, value) :: rest =>
      renderText key ++ ':' :: (value.chars ++ ',' :: memberChars rest)
end

/-- The compact text of a value. -/
def Value.render (value : Value) : String :=
  String.ofList value.chars

end GodotSdk.Json
