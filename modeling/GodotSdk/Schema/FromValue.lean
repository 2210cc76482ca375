import GodotSdk.Json.Value
import GodotSdk.Schema.Content

/-!
# Descriptions in JSON values

A JSON value is a source of structured data. It has no faults of its own, so decoding
fails only where the data is not what it should be.
-/

namespace GodotSdk.Schema

open GodotSdk.Json (Number Value)

namespace FromValue

/-- What a message would call a value. -/
def found : Value → Found
  | .null => .nothing
  | .bool value => .bool value
  | .number (.int value) => .int value
  | .number (.float value) => .float value
  | .string text => .text text
  | .array _ => .sequence
  | .object _ => .map

/-- Fail because another kind of value is expected. -/
def wrongKind {α : Type} (expected : String) (value : Value) : Read α :=
  unfit (.type (found value) expected)

def asText : Value → Read String
  | .string text => .ok text
  | value => wrongKind "a string" value

def asBool : Value → Read Bool
  | .bool value => .ok value
  | value => wrongKind "a boolean" value

def asInt : Value → Read Int64
  | .number (.int value) =>
      if value ≤ Int64.maxValue.toInt then .ok (Int64.ofInt value)
        else unfit (.value (.int value) "i64")
  | value => wrongKind "i64" value

def asOptional : Value → Read (Option Value)
  | .null => .ok none
  | value => .ok (some value)

def asItems : Value → Read (List (Read Value))
  | .array items => .ok (items.map .ok)
  | value => wrongKind "a sequence" value

def asEntries : Value → Read (List (Read String × Read Value))
  | .object members => .ok (members.map fun (key, value) => (.ok key, .ok value))
  | value => wrongKind "a map" value

def asShape (record : String) : Value → Read (Shape Value)
  | .object members =>
      .ok (.fields (members.map fun (key, value) => (.ok (.name key), .ok value)))
  | .array items =>
      .ok (.values (items.map .ok) fun count =>
        if items.length = count then .ok ()
        else unfit (.length items.length "fewer elements in array"))
  | value => wrongKind ("struct " ++ record) value

/-- A variant is a string, or an object with a single member that maps it to null. -/
def asVariant (variants : List String) : Value → Read Nat
  | .string name => variantNamed variants name
  | .object [(name, value)] => do
      let position ← variantNamed variants name
      match value with
      | .null => return position
      | value => within (.key name) (wrongKind "unit" value)
  | .object _ => unfit (.value .map "map with a single key")
  | value => wrongKind "string or map" value

mutual
/-- The whole of a value. -/
def asContent : Value → Content
  | .null => .nothing
  | .bool value => .bool value
  | .number (.int value) => if 0 ≤ value then .natural value.toNat else .negative value
  | .number (.float _) => .float
  | .string text => .text text
  | .array items => .sequence (itemContents items)
  | .object members => .map (memberContents members)

def itemContents : List Value → List Content
  | [] => []
  | item :: rest => asContent item :: itemContents rest

def memberContents : List (String × Value) → List (Content × Content)
  | [] => []
  | (key, value) :: rest => (.text key, asContent value) :: memberContents rest
end

instance : Source Value where
  text := asText
  bool := asBool
  int := asInt
  optional := asOptional
  items := asItems
  entries := asEntries
  shape := asShape
  variant := asVariant
  content value := .ok (asContent value)
  skip _ := .ok ()

end FromValue

end GodotSdk.Schema
