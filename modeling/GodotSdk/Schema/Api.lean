import GodotSdk.OrderedMap
import GodotSdk.Time.Timestamp

/-!
# API descriptions

What a description says about a remote API: its datatypes with their properties, its
calls, and its errors.
-/

namespace GodotSdk

/-- Whether and since when something should no longer be used. -/
structure Deprecation where
  replacedBy : Option String
  deprecatedAfter : Option Timestamp
deriving DecidableEq

inductive Collection
  | array
  | map
deriving DecidableEq, Repr

/-- The declared type of a property. Primitive types are named by tags; every other name
refers to a datatype. -/
inductive ActualType
  | boolean
  | int16
  | int32
  | int64
  | uint16
  | uint32
  | uint64
  | float
  | double
  | string
  | dateTime
  | object
  | complex (name : String)
deriving DecidableEq, Repr

namespace ActualType

/-- The tag of a primitive type, or the name of the datatype referred to. -/
def name : ActualType → String
  | .boolean => "Boolean"
  | .int16 => "int16"
  | .int32 => "int32"
  | .int64 => "int64"
  | .uint16 => "uint16"
  | .uint32 => "uint32"
  | .uint64 => "uint64"
  | .float => "float"
  | .double => "double"
  | .string => "String"
  | .dateTime => "DateTime"
  | .object => "object"
  | .complex name => name

/-- The primitive types. -/
def primitives : List ActualType :=
  [.boolean, .int16, .int32, .int64, .uint16, .uint32, .uint64, .float, .double,
    .string, .dateTime, .object]

/-- The type that a name denotes. Tags are matched exactly, case included. -/
def ofName (name : String) : ActualType :=
  (primitives.find? (·.name == name)).getD (.complex name)

/-- The name of the datatype that a type refers to. -/
def target? : ActualType → Option String
  | .complex name => some name
  | _ => none

end ActualType

/-- A field of a datatype. A property that was renamed remembers the name it had. -/
structure Property where
  name : String
  actualType : ActualType
  collection : Option Collection
  isOptional : Bool
  description : Option String
  deprecation : Option Deprecation
  originalName : Option String
deriving DecidableEq

/-- The key of a property in serialized data, which renaming keeps. -/
def Property.wireName (property : Property) : String :=
  property.originalName.getD property.name

/-- A request, result or shared model type. -/
structure Datatype where
  name : String
  properties : List Property
  description : Option String
  deprecation : Option Deprecation
deriving DecidableEq

/-- The credential that a call declares. -/
inductive AuthMode
  | anonymous
  | entityToken
  | secretKey
  | sessionTicket
deriving DecidableEq, Repr

/-- An operation of the API. -/
structure ApiCall where
  name : String
  url : String
  request : Option String
  result : Option String
  auth : AuthMode
  summary : Option String
  deprecation : Option Deprecation
deriving DecidableEq

/-- An entry of the error catalog. -/
structure ErrorCode where
  name : String
  id : Int64
deriving DecidableEq

structure ApiDescription where
  name : String
  datatypes : List Datatype
  calls : List ApiCall
  errorList : List String
  errors : OrderedMap ErrorCode
deriving DecidableEq

/-! ## Obsolete items

How strongly a deprecated item is discouraged depends on the time of generation: an item
is an error once its date has passed. -/

inductive Severity
  | warning
  | error
deriving DecidableEq, Repr

/-- The note on a deprecated item. -/
structure Obsolete where
  replacedBy : Option String
  severity : Severity
deriving DecidableEq, Repr

namespace Obsolete

/-- The severity at a given time. A date that is exactly now has not passed. -/
def severityAt (now : Timestamp) : Option Timestamp → Severity
  | some date => if date.before now then .error else .warning
  | none => .warning

/-- The note on an item, if it is deprecated. -/
def of? (now : Timestamp) (deprecation : Option Deprecation) : Option Obsolete :=
  deprecation.map fun deprecation =>
    ⟨deprecation.replacedBy, severityAt now deprecation.deprecatedAfter⟩

def message (obsolete : Obsolete) : String :=
  match obsolete.replacedBy with
  | some name => "Use '" ++ name ++ "' instead"
  | none => "No longer available"

end Obsolete

end GodotSdk
