import GodotSdk.Schema.Reading

/-!
# Sources of structured data

A source is a kind of node that structured data can be read from. All formats share what
a record, a list or a choice looks like; a source says how its nodes present themselves
as such. Elements and entries come as a list of readings, of which one may fail, so that
an error in a list is met only after the elements before it.
-/

namespace GodotSdk.Schema

/-- Data read whole, before it is known what it should be. Entries of a map keep their
order and may repeat. -/
inductive Content
  | nothing
  | bool (value : Bool)
  | natural (value : Nat)
  | negative (value : Int)
  | float
  | text (value : String)
  | sequence (items : List Content)
  | map (entries : List (Content × Content))

/-- How a record names a field. Data that was read whole may also give its position. -/
inductive FieldName
  | name (text : String)
  | position (index : Nat)
deriving DecidableEq, Repr

/-- A record is written with field names, or as the values of its fields in order. In
the second form `finish` checks the end, given how many fields there are. -/
inductive Shape (ν : Type)
  | fields (entries : List (Read FieldName × Read ν))
  | values (items : List (Read ν)) (finish : Nat → Read Unit)

/-- Nodes of a data format. -/
class Source (ν : Type) where
  /-- A text. -/
  text : ν → Read String
  /-- A truth value. -/
  bool : ν → Read Bool
  /-- A whole number of 64 bits. -/
  int : ν → Read Int64
  /-- The node itself, unless it stands for nothing. -/
  optional : ν → Read (Option ν)
  /-- The elements of a sequence. -/
  items : ν → Read (List (Read ν))
  /-- The entries of a map with text keys. -/
  entries : ν → Read (List (Read String × Read ν))
  /-- A record, whose name is given for messages. -/
  shape : String → ν → Read (Shape ν)
  /-- The position of a variant among the given names. -/
  variant : List String → ν → Read Nat
  /-- The whole of the node. -/
  content : ν → Read Content
  /-- Go over a node that nobody asks for. -/
  skip : ν → Read Unit

/-- The position of a variant by its name. -/
def variantNamed (variants : List String) (name : String) : Read Nat :=
  match variants.idxOf? name with
  | some position => .ok position
  | none => unfit (.unknownVariant name variants)

/-- A field of a record that is being assembled in `σ`. -/
structure Field (ν σ : Type) where
  name : String
  required : Bool
  present : σ → Bool
  read : ν → σ → Read σ

/-- The field that a name denotes. -/
def findField {ν σ : Type} (fields : List (Field ν σ)) : FieldName → Option (Field ν σ)
  | .name text => fields.find? (·.name == text)
  | .position index => fields[index]?

/-- The path segment of a field. -/
def fieldSegment : FieldName → Segment
  | .name text => .key text
  | .position index => .key (toString index)

/-- Read the fields of a record by name. Unknown fields are skipped, and a field may not
come twice. -/
def readFields {ν σ : Type} [Source ν] (fields : List (Field ν σ)) (parts : σ) :
    List (Read FieldName × Read ν) → Read σ
  | [] => .ok parts
  | (key, value) :: rest => do
      let key ← within .unknown key
      match findField fields key with
      | none =>
          within (fieldSegment key) (Source.skip (← value))
          readFields fields parts rest
      | some field =>
          if field.present parts then unfit (.repeatedField field.name)
          else
            let parts ← within (fieldSegment key) (field.read (← value) parts)
            readFields fields parts rest

/-- Read the fields of a record in order, of which `count` are read. Fields that are not
required may be missing at the end. -/
def readValues {ν σ : Type} (record : String) (total : Nat) (finish : Nat → Read Unit)
    (count : Nat) (parts : σ) : List (Field ν σ) → List (Read ν) → Read σ
  | [], _ => do
      finish count
      return parts
  | field :: fields, [] =>
      if field.required then
        unfit (.length count ("struct " ++ record ++ " with " ++ toString total ++
          " elements"))
      else readValues record total finish count parts fields []
  | field :: fields, item :: items => do
      let parts ← within (.index count) (field.read (← item) parts)
      readValues record total finish (count + 1) parts fields items

/-- Read a record into its parts. The first required field that is missing is an
error. -/
def readRecord {ν σ : Type} [Source ν] (record : String) (fields : List (Field ν σ))
    (parts : σ) (node : ν) : Read σ := do
  match ← Source.shape record node with
  | .values items finish => readValues record fields.length finish 0 parts fields items
  | .fields entries =>
      let parts ← readFields fields parts entries
      match fields.find? fun field => field.required && !field.present parts with
      | some field => unfit (.missingField field.name)
      | none => return parts

/-- Read an optional value. -/
def readOptional {ν α : Type} [Source ν] (read : ν → Read α) (node : ν) :
    Read (Option α) := do
  match ← Source.optional node with
  | some node => return some (← read node)
  | none => return none

/-- Read a list. -/
def readList {ν α : Type} [Source ν] (read : ν → Read α) (node : ν) :
    Read (List α) := do
  readEach read 0 (← Source.items node)

/-- Read the entries of a map in order. -/
def readEntries {ν α : Type} (read : ν → Read α) :
    List (Read String × Read ν) → Read (List (String × α))
  | [] => .ok []
  | (key, value) :: rest => do
      let key ← within .unknown key
      let value ← within (.key key) (read (← value))
      return (key, value) :: (← readEntries read rest)

end GodotSdk.Schema
