import GodotSdk.Json.Value
import GodotSdk.OrderedMap

/-!
# Values of scripts

What the expressions of a running script stand for. An operation that the language
refuses for a value, such as a method that the value does not have, has no result.
-/

namespace GodotSdk

def Json.Number.isZero : Json.Number → Bool
  | .int value => value == 0
  | .float value => value.mantissa == 0

namespace Script

inductive Value
  | null
  | bool (value : Bool)
  | number (value : Json.Number)
  | string (text : String)
  | array (items : List Value)
  | dictionary (entries : List (String × Value))
  /-- An object whose fields are declared as texts. -/
  | object (fields : List (String × String))
  /-- A class by its full name. -/
  | type (name : String)
  /-- A new object of a class, with the arguments that it was made from. -/
  | made (className : String) (arguments : List Value)
  /-- A callable, which is not valid if it is empty. -/
  | callable (valid : Bool)

namespace Value

mutual
/-- JSON data as a script sees it. -/
def ofJson : Json.Value → Value
  | .null => .null
  | .bool value => .bool value
  | .number value => .number value
  | .string text => .string text
  | .array items => .array (ofItems items)
  | .object members => .dictionary (ofMembers members)

def ofItems : List Json.Value → List Value
  | [] => []
  | first :: rest => ofJson first :: ofItems rest

def ofMembers : List (String × Json.Value) → List (String × Value)
  | [] => []
  | (key, value) :: rest => (key, ofJson value) :: ofMembers rest
end

/-- Whether a value counts as true: all do but null, false, zero, and what is empty. -/
def truthy : Value → Bool
  | .null => false
  | .bool value => value
  | .number value => !value.isZero
  | .string text => !text.isEmpty
  | .array items => !items.isEmpty
  | .dictionary entries => !entries.isEmpty
  | _ => true

@[simp] theorem truthy_bool (value : Bool) : (Value.bool value).truthy = value := rfl

/-- The value of a field. -/
def field? : Value → String → Option Value
  | .object fields, label => (fields.lookup label).map .string
  | _, _ => none

/-- An object with a new value in one of its fields, which must be a text as the field
is. -/
def setField? : Value → String → Value → Option Value
  | .object fields, label, .string text =>
      if (fields.lookup label).isSome then
        some (.object (putEntry label text fields)) else none
  | _, _, _ => none

/-- The value at a key that is there. -/
def index? : Value → Value → Option Value
  | .dictionary entries, .string key => entries.lookup key
  | _, _ => none

/-- A dictionary with a new value at a key. -/
def setIndex? : Value → Value → Value → Option Value
  | .dictionary entries, .string key, value =>
      some (.dictionary (putEntry key value entries))
  | _, _, _ => none

/-- What a method gives that has no effect. Arrays know `has` as well, but ask it for
items and not for keys. -/
def method? : Value → String → List Value → Option Value
  | .dictionary entries, "has", [.string key] =>
      some (.bool (entries.lookup key).isSome)
  | .callable valid, "is_valid", [] => some (.bool valid)
  | .type className, "new", arguments => some (.made className arguments)
  | _, _, _ => none

end Value

end Script

end GodotSdk
