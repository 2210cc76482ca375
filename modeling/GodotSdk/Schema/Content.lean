import GodotSdk.Schema.Decode

/-!
# Data read whole

Datatypes are written as a list or as a map, so their data is read whole before it is
taken for either. It is a source like any other, except that nobody hears of its errors.
-/

namespace GodotSdk.Schema

namespace Content

/-- What a message would call the data. -/
def found : Content → Found
  | .nothing => .nothing
  | .bool value => .bool value
  | .natural value => .int value
  | .negative value => .int value
  | .float => .notANumber
  | .text value => .text value
  | .sequence _ => .sequence
  | .map _ => .map

def asText : Content → Read String
  | .text value => .ok value
  | content => unfit (.type content.found "a string")

def asBool : Content → Read Bool
  | .bool value => .ok value
  | content => unfit (.type content.found "a boolean")

def asInt : Content → Read Int64
  | .natural value =>
      if (value : Int) ≤ Int64.maxValue.toInt then .ok (Int64.ofNat value)
        else unfit (.value (.int value) "i64")
  | .negative value => .ok (Int64.ofInt value)
  | content => unfit (.type content.found "i64")

def asOptional : Content → Read (Option Content)
  | .nothing => .ok none
  | content => .ok (some content)

def asItems : Content → Read (List (Read Content))
  | .sequence items => .ok (items.map .ok)
  | content => unfit (.type content.found "a sequence")

def asEntries : Content → Read (List (Read String × Read Content))
  | .map entries => .ok (entries.map fun (key, value) => (key.asText, .ok value))
  | content => unfit (.type content.found "a map")

/-- A field may be named by its position. -/
def fieldName : Content → Read FieldName
  | .text name => .ok (.name name)
  | .natural index => .ok (.position index)
  | content => unfit (.type content.found "field identifier")

def asShape (record : String) : Content → Read (Shape Content)
  | .map entries =>
      .ok (.fields (entries.map fun (key, value) => (key.fieldName, .ok value)))
  | .sequence items =>
      .ok (.values (items.map .ok) fun count =>
        if items.length = count then .ok ()
          else unfit (.length items.length "fewer elements"))
  | content => unfit (.type content.found ("struct " ++ record))

/-- The position of a variant by its name, or given as such. -/
def variantPosition (variants : List String) : Content → Read Nat
  | .text name => variantNamed variants name
  | .natural position =>
      if position < variants.length then .ok position
      else unfit (.value (.int position) "variant index")
  | content => unfit (.type content.found "variant identifier")

/-- A variant is a text, or a map of a variant to nothing. -/
def asVariant (variants : List String) : Content → Read Nat
  | .text name => variantPosition variants (.text name)
  | .map [(key, .nothing)] => variantPosition variants key
  | .map _ => unfit (.value .map "map with a single key")
  | content => unfit (.type content.found "string or map")

instance : Source Content where
  text := asText
  bool := asBool
  int := asInt
  optional := asOptional
  items := asItems
  entries := asEntries
  shape := asShape
  variant := asVariant
  content := .ok
  skip _ := .ok ()

end Content

/-- Read a description. -/
def readApiDescription {ν : Type} [Source ν] (node : ν) : Read ApiDescription := do
  let whole (node : ν) : Read (List Datatype) := do datatypesOf (← Source.content node)
  let parts ← readRecord "ApiDescription" (apiDescriptionFields whole) {} node
  return {
    name := parts.name.getD ""
    datatypes := parts.datatypes.getD []
    calls := parts.calls.getD []
    errorList := parts.errorList.getD []
    errors := parts.errors.getD .empty }

end GodotSdk.Schema
