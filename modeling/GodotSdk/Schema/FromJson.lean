import GodotSdk.Json.Draft
import GodotSdk.Schema.Content

/-!
# Descriptions in JSON texts

A draft of a JSON document is a source of structured data. Its faults come up where
decoding meets them, so an error in the data is told before a fault of the text that
comes after it.
-/

namespace GodotSdk.Schema

open GodotSdk.Json (Draft Fault ListTail Number ObjectTail TextDraft)

namespace FromJson

/-- What a faulty part of a text amounts to. -/
def orMalformed {α : Type} : Except Fault α → Read α
  | .ok value => .ok value
  | .error fault => malformed fault

def foundNumber : Number → Found
  | .int value => .int value
  | .float value => .float value

/-- Fail because another kind of value is expected. A scalar that is faulty itself is
told first. -/
def wrongKind {α : Type} (expected : String) : Draft → Read α
  | .missing => malformed .valueEnd
  | .null => unfit (.type .nothing expected)
  | .bool value => unfit (.type (.bool value) expected)
  | .number value => do unfit (.type (foundNumber (← orMalformed value)) expected)
  | .string text => do unfit (.type (.text (← orMalformed text.typed)) expected)
  | .array _ _ => unfit (.type .sequence expected)
  | .object _ _ => unfit (.type .map expected)
  | .faulty typed _ => malformed typed

def asText : Draft → Read String
  | .string text => orMalformed text.typed
  | draft => wrongKind "a string" draft

def asBool : Draft → Read Bool
  | .bool value => .ok value
  | draft => wrongKind "a boolean" draft

/-- A whole number of 64 bits from a number. -/
def intOfNumber : Number → Read Int64
  | .int value =>
      if value ≤ Int64.maxValue.toInt then .ok (Int64.ofInt value)
        else unfit (.value (.int value) "i64")
  | .float value => unfit (.type (.float value) "i64")

def asInt : Draft → Read Int64
  | .number value => do intOfNumber (← orMalformed value)
  | draft => wrongKind "i64" draft

def asOptional : Draft → Read (Option Draft)
  | .null => .ok none
  | draft => .ok (some draft)

/-- The fault at the end of a list, as an element that cannot be read. -/
def tailItems {α : Type} (tail : ListTail) : List (Read α) :=
  match tail.typed? with
  | some fault => [malformed fault]
  | none => []

def asItems : Draft → Read (List (Read Draft))
  | .array items tail => .ok (items.map .ok ++ tailItems tail)
  | draft => wrongKind "a sequence" draft

/-- What stands at the end of an object, as an entry that cannot be read. -/
def tailEntries {α : Type} : ObjectTail Draft → List (Read String × Read α)
  | .closed => []
  | .stopped typed _ => [(malformed typed, malformed typed)]
  | .notKey _ => [(malformed .keyNotString, malformed .keyNotString)]
  | .faultyKey key => [(orMalformed key.typed, malformed .stringEnd)]
  | .noColon key fault => [(orMalformed key.typed, malformed fault)]

/-- The entries of an object in order. -/
def memberEntries (members : List (TextDraft × Draft)) (tail : ObjectTail Draft) :
    List (Read String × Read Draft) :=
  members.map (fun (key, value) => (orMalformed key.typed, .ok value)) ++
    tailEntries tail

def asEntries : Draft → Read (List (Read String × Read Draft))
  | .object members tail => .ok (memberEntries members tail)
  | draft => wrongKind "a map" draft

/-- Check the end of a record written as an array, of which `count` items were read. -/
def finishItems (items : List Draft) (tail : ListTail) (count : Nat) : Read Unit :=
  if count < items.length then malformed .trailingCharacters
  else
    match tail with
    | .closed => .ok ()
    | .comma => malformed .trailingComma
    | .textEnd => malformed .listEnd
    | .commaEnd | .other => malformed .trailingCharacters

def asShape (record : String) : Draft → Read (Shape Draft)
  | .object members tail =>
      .ok (.fields ((memberEntries members tail).map fun (key, value) =>
        (key.map .name, value)))
  | .array items tail =>
      .ok (.values (items.map .ok ++ tailItems tail) (finishItems items tail))
  | draft => wrongKind ("struct " ++ record) draft

/-- Check that nothing but null is given with a variant. -/
def asNothing : Draft → Read Unit
  | .null => .ok ()
  | draft => wrongKind "unit" draft

/-- Check the end of an object after its first member. -/
def finishMember (rest : List (TextDraft × Draft)) (tail : ObjectTail Draft) :
    Read Unit :=
  match rest, tail with
  | [], .closed => .ok ()
  | [], .stopped .objectEnd _ => malformed .objectEnd
  | _, _ => malformed .expectedValue

/-- Fail at an object that stands for a variant and has no complete member. -/
def noVariant (variants : List String) : ObjectTail Draft → Read Nat
  | .closed => malformed .expectedValue
  | .stopped _ _ => malformed .valueEnd
  | .notKey found => wrongKind "variant identifier" found
  | .faultyKey key => do variantNamed variants (← orMalformed key.typed)
  | .noColon key fault => do
      let _ ← variantNamed variants (← orMalformed key.typed)
      malformed fault

/-- A variant is a string, or an object with a single member that maps it to null. -/
def asVariant (variants : List String) : Draft → Read Nat
  | .string text => do variantNamed variants (← orMalformed text.typed)
  | .object ((key, value) :: rest) tail => do
      let name ← orMalformed key.typed
      let position ← variantNamed variants name
      within (.key name) (asNothing value)
      finishMember rest tail
      return position
  | .object [] tail => noVariant variants tail
  | .missing => malformed .valueEnd
  | _ => malformed .expectedValue

/-- Check what stands at the end of an object. -/
def endMembers : ObjectTail Draft → Read Unit
  | .closed => .ok ()
  | .stopped typed _ => within .unknown (malformed typed)
  | .notKey _ => within .unknown (malformed .keyNotString)
  | .faultyKey key => do
      let _ ← within .unknown (orMalformed key.typed)
      malformed .stringEnd
  | .noColon key fault => do
      let _ ← within .unknown (orMalformed key.typed)
      malformed fault

/-- Check what stands at the end of an array. -/
def endItems (tail : ListTail) : Read Unit :=
  match tail.typed? with
  | some fault => malformed fault
  | none => .ok ()

mutual
/-- The whole of a value. At most `depth` arrays and objects may be nested. -/
def asContent (depth : Nat) : Draft → Read Content
  | .missing => malformed .valueEnd
  | .null => .ok .nothing
  | .bool value => .ok (.bool value)
  | .number value => do
      match ← orMalformed value with
      | .int value => return if 0 ≤ value then .natural value.toNat else .negative value
      | .float _ => return .float
  | .string text => do return .text (← orMalformed text.typed)
  | .array items tail =>
      match depth with
      | 0 => malformed .tooDeep
      | depth + 1 => do return .sequence (← itemContents depth 0 items tail)
  | .object members tail =>
      match depth with
      | 0 => malformed .tooDeep
      | depth + 1 => do return .map (← memberContents depth members tail)
  | .faulty typed _ => malformed typed

/-- The whole of the items of an array from a position on. -/
def itemContents (depth position : Nat) (items : List Draft) (tail : ListTail) :
    Read (List Content) :=
  match items with
  | [] => do
      endItems tail
      return []
  | item :: rest => do
      let content ← within (.index position) (asContent depth item)
      return content :: (← itemContents depth (position + 1) rest tail)

/-- The whole of the members of an object. -/
def memberContents (depth : Nat) (members : List (TextDraft × Draft))
    (tail : ObjectTail Draft) :
    Read (List (Content × Content)) :=
  match members with
  | [] => do
      endMembers tail
      return []
  | (key, value) :: rest => do
      let key ← within .unknown (orMalformed key.typed)
      let content ← within (.key key) (asContent depth value)
      return (.text key, content) :: (← memberContents depth rest tail)
end

instance : Source Draft where
  text := asText
  bool := asBool
  int := asInt
  optional := asOptional
  items := asItems
  entries := asEntries
  shape := asShape
  variant := asVariant
  content := asContent (Json.nestingLimit - 1)
  skip draft :=
    match draft.skipped? with
    | some fault => malformed fault
    | none => .ok ()

end FromJson

end GodotSdk.Schema
