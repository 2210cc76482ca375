import GodotSdk.Json.Value
import GodotSdk.Schema.Decode

/-!
# Encoding API descriptions

How a description is written as a JSON value. Optional parts that are absent are left
out, and reading the value back gives the same description.
-/

namespace GodotSdk.Schema

open GodotSdk.Json (Value)

/-- A member that is left out if its value is absent. -/
def optionalMember {α : Type} (name : String) (encode : α → Value) :
    Option α → List (String × Value)
  | some value => [(name, encode value)]
  | none => []

/-- The name of a value among named values. -/
def nameOf {α : Type} [DecidableEq α] (names : List (String × α))
    (value : α) : String :=
  ((names.find? (·.2 = value)).map Prod.fst).getD ""

def encodeDeprecation (deprecation : Deprecation) : Value :=
  .object (optionalMember "ReplacedBy" .string deprecation.replacedBy
    ++ optionalMember "DeprecatedAfter" (fun date => .string date.render)
      deprecation.deprecatedAfter)

def encodeProperty (property : Property) : Value :=
  .object ([("name", .string property.name),
    ("actualtype", .string property.actualType.name)]
    ++ optionalMember "collection" (fun value => .string (nameOf collectionNames value))
      property.collection
    ++ [("optional", .bool property.isOptional)]
    ++ optionalMember "description" .string property.description
    ++ optionalMember "deprecation" encodeDeprecation property.deprecation
    ++ optionalMember "originalName" .string property.originalName)

def encodeDatatype (datatype : Datatype) : Value :=
  .object ([("name", .string datatype.name),
      ("properties", .array (datatype.properties.map encodeProperty))]
    ++ optionalMember "description" .string datatype.description
    ++ optionalMember "deprecation" encodeDeprecation datatype.deprecation)

def encodeCall (call : ApiCall) : Value :=
  .object ([("name", .string call.name), ("url", .string call.url)]
    ++ optionalMember "request" .string call.request
    ++ optionalMember "result" .string call.result
    ++ [("auth", .string (nameOf authModeNames call.auth))]
    ++ optionalMember "summary" .string call.summary
    ++ optionalMember "deprecation" encodeDeprecation call.deprecation)

def encodeErrorCode (code : ErrorCode) : Value :=
  .object [("name", .string code.name), ("id", .number (.int code.id.toInt))]

def encodeDescription (api : ApiDescription) : Value :=
  .object [("name", .string api.name),
    ("datatypes", .array (api.datatypes.map encodeDatatype)),
    ("calls", .array (api.calls.map encodeCall)),
    ("errorList", .array (api.errorList.map .string)),
    ("errors", .object (api.errors.toList.map fun (key, code) =>
      (key, encodeErrorCode code)))]

end GodotSdk.Schema
