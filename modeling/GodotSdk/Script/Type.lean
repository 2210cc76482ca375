import GodotSdk.Naming.Sanitizer
import GodotSdk.Schema.Api

/-!
# Types of members

The type annotations of member variables, and the literals that required members start
with.
-/

namespace GodotSdk.Script

/-- A type annotation. Collections say nothing about their elements. -/
inductive MemberType
  | bool
  | int
  | float
  | string
  | array
  | dictionary
  | model (className : String)
deriving DecidableEq, Repr

/-- The first value of a member. -/
inductive Literal
  | null
  | false
  | zero
  | zeroFloat
  | emptyString
  | emptyArray
  | emptyDictionary
deriving DecidableEq, Repr

namespace MemberType

/-- The annotation for a declared type that is not a collection. Points in time are
texts. -/
def ofActual (sanitizer : Sanitizer) : ActualType → MemberType
  | .boolean => .bool
  | .int16 | .int32 | .int64 | .uint16 | .uint32 | .uint64 => .int
  | .float | .double => .float
  | .string | .dateTime => .string
  | .object => .dictionary
  | .complex name => .model (sanitizer.className name)

/-- The annotation for a declared type. -/
def of (sanitizer : Sanitizer) (type : ActualType) : Option Collection → MemberType
  | some .array => .array
  | some .map => .dictionary
  | none => ofActual sanitizer type

/-- The value that a required member of the type starts with. -/
def initial : MemberType → Literal
  | .bool => .false
  | .int => .zero
  | .float => .zeroFloat
  | .string => .emptyString
  | .array => .emptyArray
  | .dictionary => .emptyDictionary
  | .model _ => .null

def render : MemberType → String
  | .bool => "bool"
  | .int => "int"
  | .float => "float"
  | .string => "String"
  | .array => "Array"
  | .dictionary => "Dictionary"
  | .model className => className

end MemberType

def Literal.render : Literal → String
  | .null => "null"
  | .false => "false"
  | .zero => "0"
  | .zeroFloat => "0.0"
  | .emptyString => "\"\""
  | .emptyArray => "[]"
  | .emptyDictionary => "\x7b\x7d"

end GodotSdk.Script
