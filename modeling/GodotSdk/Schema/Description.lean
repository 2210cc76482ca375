import GodotSdk.Schema.FromJson
import GodotSdk.Schema.FromYaml

/-!
# Reading API descriptions from texts

A description is read from a text in JSON or YAML. An error tells where it arose, unless
the text as a whole is not a document.
-/

namespace GodotSdk

open GodotSdk.Schema

/-- Why a text is not a description. -/
inductive DescriptionError
  /-- Something follows the JSON document. -/
  | trailing
  | json (error : ReadError)
  /-- The text is not a single YAML document. -/
  | notYaml
  | yaml (error : ReadError)
deriving DecidableEq, Repr

/-- The broad classes of errors: what the data is, what the text is, and a text that
ends too early. -/
inductive ErrorCategory
  | data
  | text
  | textEnd
deriving DecidableEq, Repr

def Schema.Cause.category : Cause → ErrorCategory
  | .unfit _ => .data
  | .malformed fault => if fault.isEnd then .textEnd else .text

/-- The description that a JSON text denotes. -/
def ApiDescription.ofJson (text : String) : Except DescriptionError ApiDescription := do
  let document := Json.Document.ofText text
  let api ← (readApiDescription document.root).mapError .json
  if document.trailing then throw .trailing
  return api

/-- The description that a YAML text denotes. -/
def ApiDescription.ofYaml (text : String) : Except DescriptionError ApiDescription :=
  match Yaml.Document.ofText? text with
  | some document => (readApiDescription (YamlNode.ofDocument document)).mapError .yaml
  | none => .error .notYaml

end GodotSdk
