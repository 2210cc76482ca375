import GodotSdk.Json.Fault
import GodotSdk.Number.Binary64
import GodotSdk.Text.Escape

/-!
# Reading structured data

Reading goes through a document in order and stops at the first thing that is wrong. An
error says where it arose, as a path from the root of the document, and what is wrong
there.
-/

namespace GodotSdk.Schema

/-- One step of a path into a document. A step is unknown while the key of an entry is
being read. -/
inductive Segment
  | index (position : Nat)
  | key (name : String)
  | unknown
deriving DecidableEq, Repr

/-- The text of a path. Keys are separated by dots, and the root is a dot. -/
def renderPath : List Segment → String
  | [] => "."
  | first :: rest => rest.foldl (fun text segment => text ++ next segment) (start first)
where
  start : Segment → String
    | .index position => "[" ++ toString position ++ "]"
    | .key name => name
    | .unknown => "?"
  next : Segment → String
    | .index position => "[" ++ toString position ++ "]"
    | .key name => "." ++ name
    | .unknown => ".?"

/-- A value found where another kind of value was expected. -/
inductive Found
  | nothing
  | bool (value : Bool)
  | int (value : Int)
  | wideInt (value : Int)
  | float (value : Binary64)
  | infinite (negative : Bool)
  | notANumber
  | text (value : String)
  | sequence
  | map
deriving DecidableEq, Repr

/-- How a data format speaks of values in messages: its word for nothing, and the powers
of ten between which floats are written without an exponent. -/
structure Dialect where
  nothing : String
  lowest : Int
  highest : Int

/-- JSON calls nothing null, and writes floats with an exponent from `1e16` on. -/
def Dialect.json : Dialect :=
  ⟨"null", -5, 16⟩

/-- YAML calls nothing a unit value, and never writes an exponent. -/
def Dialect.yaml : Dialect :=
  ⟨"unit value", -400, 400⟩

def Found.render (dialect : Dialect) : Found → String
  | .nothing => dialect.nothing
  | .bool value => "boolean `" ++ (if value then "true" else "false") ++ "`"
  | .int value => "integer `" ++ toString value ++ "`"
  | .wideInt value =>
      "integer `" ++ toString value ++ "` as " ++ if value < 0 then "i128" else "u128"
  | .float value =>
      "floating point `" ++ value.render dialect.lowest dialect.highest ++ "`"
  | .infinite negative =>
      "floating point `" ++ (if negative then "-inf" else "inf") ++ "`"
  | .notANumber => "floating point `NaN`"
  | .text value => "string " ++ Text.escaped value
  | .sequence => "sequence"
  | .map => "map"

/-- How data differs from what a description must look like. -/
inductive Mismatch
  | type (found : Found) (expected : String)
  | value (found : Found) (expected : String)
  | length (found : Nat) (expected : String)
  | unknownVariant (name : String) (variants : List String)
  | repeatedField (name : String)
  | missingField (name : String)
  | neitherForm (choice : String)
  | taggedValue
  | tooDeep
  | tooManyAliases
deriving DecidableEq, Repr

/-- The names of the variants that an unknown one could have been. -/
def renderChoice (variants : List String) : String :=
  let quoted := variants.map fun name => "`" ++ name ++ "`"
  match quoted with
  | [first] => first
  | [first, second] => first ++ " or " ++ second
  | _ => "one of " ++ ", ".intercalate quoted

def Mismatch.message (dialect : Dialect) : Mismatch → String
  | .type found expected =>
      "invalid type: " ++ found.render dialect ++ ", expected " ++ expected
  | .value found expected =>
      "invalid value: " ++ found.render dialect ++ ", expected " ++ expected
  | .length found expected =>
      "invalid length " ++ toString found ++ ", expected " ++ expected
  | .unknownVariant name variants =>
      "unknown variant `" ++ name ++ "`, expected " ++ renderChoice variants
  | .repeatedField name => "duplicate field `" ++ name ++ "`"
  | .missingField name => "missing field `" ++ name ++ "`"
  | .neitherForm choice => "data did not match any variant of untagged enum " ++ choice
  | .taggedValue => "untagged and internally tagged enums do not support enum input"
  | .tooDeep => "recursion limit exceeded"
  | .tooManyAliases => "repetition limit exceeded"

/-- What is wrong at a place: the text of the document or the data in it. -/
inductive Cause
  | malformed (fault : Json.Fault)
  | unfit (mismatch : Mismatch)
deriving DecidableEq, Repr

def Cause.message (dialect : Dialect) : Cause → String
  | .malformed fault => fault.message
  | .unfit mismatch => mismatch.message dialect

/-- An error and the path to it. -/
structure ReadError where
  path : List Segment
  cause : Cause
deriving DecidableEq, Repr

abbrev Read (α : Type) := Except ReadError α

/-- Fail at the current place because of the data. -/
def unfit {α : Type} (mismatch : Mismatch) : Read α :=
  .error ⟨[], .unfit mismatch⟩

/-- Fail at the current place because of the text. -/
def malformed {α : Type} (fault : Json.Fault) : Read α :=
  .error ⟨[], .malformed fault⟩

/-- Read something one step further into the document. -/
def within {α : Type} (segment : Segment) : Read α → Read α
  | .ok value => .ok value
  | .error error => .error { error with path := segment :: error.path }

/-- Read the elements of a sequence in order, each at its position. -/
def readEach {ν α : Type} (read : ν → Read α) (position : Nat) :
    List (Read ν) → Read (List α)
  | [] => .ok []
  | element :: rest => do
      let value ← within (.index position) (read (← element))
      return value :: (← readEach read (position + 1) rest)

end GodotSdk.Schema
