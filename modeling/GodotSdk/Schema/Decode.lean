import GodotSdk.Schema.Api
import GodotSdk.Schema.Source
import GodotSdk.Time.Text

/-!
# Decoding API descriptions

How a description is read from any source. Every part is a record whose fields are
listed in the order in which it may also be written without names. Fields that are
missing take a default unless they are required.
-/

namespace GodotSdk.Schema

variable {ν : Type} [Source ν]

/-- A field that must be given. -/
def required {σ α : Type} (name : String) (get : σ → Option α) (set : α → σ → σ)
    (read : ν → Read α) : Field ν σ :=
  ⟨name, true, fun parts => (get parts).isSome,
    fun node parts => do return set (← read node) parts⟩

/-- A field that has a default. -/
def defaulted {σ α : Type} (name : String) (get : σ → Option α) (set : α → σ → σ)
    (read : ν → Read α) : Field ν σ :=
  { required name get set read with required := false }

/-! ## Deprecations -/

/-- Read a date. A text that is not a date counts as none. -/
def readDate (node : ν) : Read (Option Timestamp) := do
  return (← readOptional Source.text node).bind Timestamp.ofText?

structure DeprecationParts where
  replacedBy : Option (Option String) := none
  deprecatedAfter : Option (Option Timestamp) := none

def deprecationFields : List (Field ν DeprecationParts) := [
  defaulted "ReplacedBy" (·.replacedBy) (fun value parts =>
    { parts with replacedBy := some value }) (readOptional Source.text),
  defaulted "DeprecatedAfter" (·.deprecatedAfter)
    (fun value parts => { parts with deprecatedAfter := some value }) readDate]

def readDeprecation (node : ν) : Read Deprecation := do
  let parts ← readRecord "Deprecation" deprecationFields {} node
  return ⟨parts.replacedBy.getD none, parts.deprecatedAfter.getD none⟩

/-! ## Properties -/

/-- The collections in the order of their declaration, with their names. -/
def collectionNames : List (String × Collection) :=
  [("array", .array), ("map", .map)]

/-- The authentication modes in the order of their declaration, with their names. -/
def authModeNames : List (String × AuthMode) :=
  [("None", .anonymous), ("EntityToken", .entityToken), ("SecretKey", .secretKey),
    ("SessionTicket", .sessionTicket)]

/-- Read one of several named values, of which the first stands in for an impossible
position. -/
def readNamed {α : Type} (names : List (String × α)) (fallback : α) (node : ν) :
    Read α := do
  let position ← Source.variant (names.map Prod.fst) node
  return (names[position]?.map Prod.snd).getD fallback

structure PropertyParts where
  name : Option String := none
  actualType : Option ActualType := none
  collection : Option (Option Collection) := none
  isOptional : Option Bool := none
  description : Option (Option String) := none
  deprecation : Option (Option Deprecation) := none
  originalName : Option (Option String) := none

def propertyFields : List (Field ν PropertyParts) := [
  required "name" (·.name) (fun value parts => { parts with name := some value })
    Source.text, required "actualtype" (·.actualType) (fun value parts =>
    { parts with actualType := some value })
    (fun node => do return ActualType.ofName (← Source.text node)),
  defaulted "collection" (·.collection) (fun value parts =>
    { parts with collection := some value })
    (readOptional (readNamed collectionNames .array)),
  defaulted "optional" (·.isOptional) (fun value parts =>
    { parts with isOptional := some value }) Source.bool,
  defaulted "description" (·.description) (fun value parts =>
    { parts with description := some value }) (readOptional Source.text),
  defaulted "deprecation" (·.deprecation) (fun value parts =>
    { parts with deprecation := some value }) (readOptional readDeprecation),
  defaulted "originalName" (·.originalName) (fun value parts =>
    { parts with originalName := some value }) (readOptional Source.text)]

def readProperty (node : ν) : Read Property := do
  let parts ← readRecord "Property" propertyFields {} node
  return {
    name := parts.name.getD ""
    actualType := parts.actualType.getD .boolean
    collection := parts.collection.getD none
    isOptional := parts.isOptional.getD false
    description := parts.description.getD none
    deprecation := parts.deprecation.getD none
    originalName := parts.originalName.getD none }

/-! ## Datatypes -/

structure DatatypeParts where
  name : Option String := none
  properties : Option (List Property) := none
  description : Option (Option String) := none
  deprecation : Option (Option Deprecation) := none

def datatypeFields : List (Field ν DatatypeParts) := [
  required "name" (·.name) (fun value parts => { parts with name := some value })
    Source.text, defaulted "properties" (·.properties) (fun value parts =>
    { parts with properties := some value }) (readList readProperty),
  defaulted "description" (·.description) (fun value parts =>
    { parts with description := some value }) (readOptional Source.text),
  defaulted "deprecation" (·.deprecation) (fun value parts =>
    { parts with deprecation := some value }) (readOptional readDeprecation)]

def readDatatype (node : ν) : Read Datatype := do
  let parts ← readRecord "Datatype" datatypeFields {} node
  return {
    name := parts.name.getD ""
    properties := parts.properties.getD []
    description := parts.description.getD none
    deprecation := parts.deprecation.getD none }

/-- Read datatypes from data that was read whole: a list of them, or a map whose values
they are. What is wrong inside is not told. -/
def datatypesOf {κ : Type} [Source κ] (content : κ) : Read (List Datatype) :=
  match readList readDatatype content with
  | .ok datatypes => .ok datatypes
  | .error _ =>
      match Source.entries content >>= readEntries readDatatype with
      | .ok entries => .ok ((OrderedMap.ofList entries).toList.map Prod.snd)
      | .error _ => unfit (.neitherForm "Datatypes")

/-! ## Calls and errors -/

structure ApiCallParts where
  name : Option String := none
  url : Option String := none
  request : Option (Option String) := none
  result : Option (Option String) := none
  auth : Option AuthMode := none
  summary : Option (Option String) := none
  deprecation : Option (Option Deprecation) := none

def apiCallFields : List (Field ν ApiCallParts) := [
  required "name" (·.name) (fun value parts => { parts with name := some value })
    Source.text,
  required "url" (·.url) (fun value parts => { parts with url := some value })
    Source.text, defaulted "request" (·.request) (fun value parts =>
    { parts with request := some value }) (readOptional Source.text),
  defaulted "result" (·.result) (fun value parts => { parts with result := some value })
    (readOptional Source.text),
  defaulted "auth" (·.auth) (fun value parts => { parts with auth := some value })
    (readNamed authModeNames .anonymous),
  defaulted "summary" (·.summary) (fun value parts =>
    { parts with summary := some value }) (readOptional Source.text),
  defaulted "deprecation" (·.deprecation) (fun value parts =>
    { parts with deprecation := some value }) (readOptional readDeprecation)]

def readApiCall (node : ν) : Read ApiCall := do
  let parts ← readRecord "ApiCall" apiCallFields {} node
  return {
    name := parts.name.getD ""
    url := parts.url.getD ""
    request := parts.request.getD none
    result := parts.result.getD none
    auth := parts.auth.getD .anonymous
    summary := parts.summary.getD none
    deprecation := parts.deprecation.getD none }

structure ErrorCodeParts where
  name : Option String := none
  id : Option Int64 := none

def errorCodeFields : List (Field ν ErrorCodeParts) := [
  required "name" (·.name) (fun value parts => { parts with name := some value })
    Source.text,
  required "id" (·.id) (fun value parts => { parts with id := some value }) Source.int]

def readErrorCode (node : ν) : Read ErrorCode := do
  let parts ← readRecord "ErrorCode" errorCodeFields {} node
  return ⟨parts.name.getD "", parts.id.getD 0⟩

/-! ## Descriptions -/

structure ApiDescriptionParts where
  name : Option String := none
  datatypes : Option (List Datatype) := none
  calls : Option (List ApiCall) := none
  errorList : Option (List String) := none
  errors : Option (OrderedMap ErrorCode) := none

/-- The fields of a description. Its datatypes are first read whole, as data of type
`κ`. -/
def apiDescriptionFields (whole : ν → Read (List Datatype)) :
    List (Field ν ApiDescriptionParts) := [
  required "name" (·.name) (fun value parts => { parts with name := some value })
    Source.text, defaulted "datatypes" (·.datatypes) (fun value parts =>
    { parts with datatypes := some value }) whole,
  defaulted "calls" (·.calls) (fun value parts => { parts with calls := some value })
    (readList readApiCall),
  defaulted "errorList" (·.errorList) (fun value parts =>
    { parts with errorList := some value }) (readList Source.text),
  defaulted "errors" (·.errors) (fun value parts => { parts with errors := some value })
    (fun node =>
      do return .ofList (← readEntries readErrorCode (← Source.entries node)))]

end GodotSdk.Schema
