import GodotSdk.Schema.Content
import GodotSdk.Sdk.Config
import GodotSdk.Toml.Document

/-!
# Configurations in TOML documents

A TOML value is a source of structured data. A configuration stands under a key of its
own, and whatever else a document says is passed over.
-/

namespace GodotSdk.Schema

open GodotSdk.Toml (Value)

namespace FromToml

/-- What a message would call a value. -/
def found : Value → Found
  | .text value => .text value
  | .bool value => .bool value
  | .integer value => .int value
  | .float _ => .notANumber
  | .time | .table _ => .map
  | .array _ => .sequence

/-- Fail because another kind of value is expected. -/
def wrongKind {α : Type} (expected : String) (value : Value) : Read α :=
  unfit (.type (found value) expected)

def asText : Value → Read String
  | .text value => .ok value
  | value => wrongKind "a string" value

def asBool : Value → Read Bool
  | .bool value => .ok value
  | value => wrongKind "a boolean" value

def asInt : Value → Read Int64
  | .integer value =>
      if Int64.minValue.toInt ≤ value && value ≤ Int64.maxValue.toInt then
        .ok (Int64.ofInt value)
      else unfit (.value (.int value) "i64")
  | value => wrongKind "i64" value

def asItems : Value → Read (List (Read Value))
  | .array items => .ok (items.map .ok)
  | value => wrongKind "a sequence" value

def asEntries : Value → Read (List (Read String × Read Value))
  | .table entries => .ok (entries.map fun (key, value) => (.ok key, .ok value))
  | value => wrongKind "a map" value

/-- A record may also be an array of its fields, in which further items do not count. A
point in time has no fields that a record asks for. -/
def asShape (record : String) : Value → Read (Shape Value)
  | .table entries =>
      .ok (.fields (entries.map fun (key, value) => (.ok (.name key), .ok value)))
  | .array items => .ok (.values (items.map .ok) fun _ => .ok ())
  | .time => .ok (.fields [])
  | value => wrongKind ("struct " ++ record) value

def asVariant (variants : List String) : Value → Read Nat
  | .text name => variantNamed variants name
  | value => wrongKind "string or map" value

mutual
/-- Whether all numbers in a value are in range: integers of 128 bits, and finite
floats. -/
def inRange : Value → Bool
  | .integer value => -(Nat.pow 2 127 : Int) ≤ value && value < (Nat.pow 2 128 : Int)
  | .float inRange => inRange
  | .array items => itemsInRange items
  | .table entries => entriesInRange entries
  | .text _ | .bool _ | .time => true

def itemsInRange : List Value → Bool
  | [] => true
  | item :: rest => inRange item && itemsInRange rest

def entriesInRange : List (String × Value) → Bool
  | [] => true
  | (_, value) :: rest => inRange value && entriesInRange rest
end

mutual
/-- The whole of a value. -/
def asContent : Value → Content
  | .text value => .text value
  | .bool value => .bool value
  | .integer value => if 0 ≤ value then .natural value.toNat else .negative value
  | .float _ | .time => .float
  | .array items => .sequence (itemContents items)
  | .table entries => .map (entryContents entries)

def itemContents : List Value → List Content
  | [] => []
  | item :: rest => asContent item :: itemContents rest

def entryContents : List (String × Value) → List (Content × Content)
  | [] => []
  | (key, value) :: rest => (.text key, asContent value) :: entryContents rest
end

instance : Source Value where
  text := asText
  bool := asBool
  int := asInt
  optional value := .ok (some value)
  items := asItems
  entries := asEntries
  shape := asShape
  variant := asVariant
  content value := .ok (asContent value)
  skip value := if inRange value then .ok () else wrongKind "a number in range" value

end FromToml

structure ConfigFileParts where
  config : Option (Option Config) := none

def configFileFields : List (Field Value ConfigFileParts) := [
  defaulted "gdscript" (·.config) (fun value parts =>
    { parts with config := some value }) (readOptional readConfig)]

end Schema

open Schema in
/-- The configuration that a TOML text holds, or the standard one if it holds none.
There is none for a text that is no document, or whose configuration is not what it
should be. -/
def Config.ofToml? (text : String) : Option Config := do
  let document ← Toml.Value.ofText? text
  match readRecord "ConfigFile" configFileFields {} document with
  | .ok parts => some ((parts.config.getD none).getD Config.standard)
  | .error _ => none

end GodotSdk
