import GodotSdk.Naming.Sanitized
import GodotSdk.Sdk.Config

/-!
# Accepted APIs

An API is accepted if every name that its scripts would declare is an identifier and is
declared once, and if every reference has a datatype. The sanitized description is
checked, since its names are the ones declared.
-/

namespace GodotSdk

/-- Why an API is not accepted. -/
inductive Rejection
  | invalidApi (api : String)
  | invalidDatatype (datatype api : String)
  | repeatedDatatype (datatype api : String)
  | invalidProperty (datatype property api : String)
  | repeatedProperty (datatype property api : String)
  | unknownReference (datatype property target api : String)
  | invalidCall (call api : String)
  | repeatedMethod (call api : String)
deriving DecidableEq, Repr

def Rejection.message : Rejection → String
  | .invalidApi api => "API name `" ++ api ++ "` isn't a valid GDScript identifier"
  | .invalidDatatype datatype api =>
      "datatype `" ++ datatype ++ "` in API `" ++ api ++
        "` isn't a valid GDScript identifier"
  | .repeatedDatatype datatype api =>
      "API `" ++ api ++ "` defines datatype `" ++ datatype ++ "` more than once"
  | .invalidProperty datatype property api =>
      "property `" ++ datatype ++ "." ++ property ++ "` in API `" ++ api
        ++ "` isn't a valid GDScript identifier"
  | .repeatedProperty datatype property api =>
      "datatype `" ++ datatype ++ "` in API `" ++ api ++
        "` defines property `" ++ property ++ "` more than once"
  | .unknownReference datatype property target api =>
      "property `" ++ datatype ++ "." ++ property ++ "` in API `" ++ api
        ++ "` refers to unknown datatype `" ++ target ++ "`"
  | .invalidCall call api =>
      "call `" ++ call ++ "` in API `" ++ api ++ "` isn't a valid GDScript identifier"
  | .repeatedMethod call api =>
      "call `" ++ call ++ "` in API `" ++ api ++
        "` has the same function name as another call"

namespace ApiDescription

/-- Check the names of datatypes, given those that came before. -/
def checkDatatypes (api : String) (seen : List String) :
    List Datatype → Except Rejection Unit
  | [] => .ok ()
  | datatype :: rest =>
      if !Text.isIdentifier datatype.name then
        .error (.invalidDatatype datatype.name api)
      else if seen.contains datatype.name then
        .error (.repeatedDatatype datatype.name api)
      else checkDatatypes api (datatype.name :: seen) rest

/-- Whether a type refers to none but the given classes. -/
def refersTo (classes : List String) (type : ActualType) : Bool :=
  type.target?.all classes.contains

/-- Check the properties of a datatype, given the names of those that came before. -/
def checkProperties (api : String) (classes : List String) (datatype : String)
    (seen : List String) :
    List Property → Except Rejection Unit
  | [] => .ok ()
  | property :: rest =>
      if !Text.isIdentifier property.name then
        .error (.invalidProperty datatype property.name api)
      else if seen.contains property.name then
        .error (.repeatedProperty datatype property.name api)
      else if !refersTo classes property.actualType then
        .error (.unknownReference datatype property.name property.actualType.name api)
      else checkProperties api classes datatype (property.name :: seen) rest

/-- Check the function names of calls, given those that came before. -/
def checkCalls (api : String) (seen : List String) :
    List ApiCall → Except Rejection Unit
  | [] => .ok ()
  | call :: rest =>
      let method := methodName call.name
      if !Text.isIdentifier method then .error (.invalidCall call.name api)
      else if seen.contains method then .error (.repeatedMethod call.name api)
      else checkCalls api (method :: seen) rest

/-- Check that a description can be turned into scripts. The first problem counts: the
name of the API, then datatypes, then properties, then calls. -/
def check (api : ApiDescription) : Except Rejection Unit := do
  if !Text.isIdentifier api.name then throw (.invalidApi api.name)
  checkDatatypes api.name [] api.datatypes
  let classes := api.datatypes.map (·.name)
  api.datatypes.forM fun datatype =>
    checkProperties api.name classes datatype.name [] datatype.properties
  checkCalls api.name [] api.calls

end ApiDescription

/-- The sanitized description of an API that an SDK accepts. -/
def Sdk.accept (sdk : Sdk) (api : ApiDescription) : Except Rejection Sanitized := do
  let sanitized := sdk.names.sanitizer.sanitize api
  sanitized.api.check
  return sanitized

end GodotSdk
