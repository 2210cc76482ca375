import GodotSdk.FileTree
import GodotSdk.Script.Api
import GodotSdk.Script.Shared
import GodotSdk.Sdk.Acceptance

/-!
# The files of an SDK

Which scripts an SDK consists of, and how they are written into a file tree. Nothing is
written unless every API is accepted.
-/

namespace GodotSdk

/-- A generated script: its file name and its text. -/
structure ScriptFile where
  name : String
  text : String
deriving DecidableEq, Repr

/-- Why an SDK could not be written. A failed write tells the path below the output
directory. -/
inductive SdkFailure
  | rejected (rejection : Rejection)
  | unwritten (error : WriteError) (path : FilePath)
deriving DecidableEq, Repr

/-- What is said about a failure, where `output` stands for the output directory. -/
def SdkFailure.message (output : String) : SdkFailure → String
  | .rejected rejection => rejection.message
  | .unwritten .directory path =>
      "Failed to create directory `" ++ renderFilePath (output :: path) ++ "`"
  | .unwritten .file path =>
      "Failed to write `" ++ renderFilePath (output :: path) ++ "`"

/-- The failure to write a file into a directory. -/
def SdkFailure.ofWrite (directory : FilePath) (name : String) : WriteError → SdkFailure
  | .directory => .unwritten .directory directory
  | .file => .unwritten .file (directory ++ [name])

namespace Sdk

def settingsFile (sdk : Sdk) : ScriptFile :=
  ⟨SdkNames.scriptFile sdk.names.settingsClass,
    Script.layout (Script.settingsSteps sdk)⟩

/-- The errors script, whose catalog is that of the first API. -/
def errorsFile (sdk : Sdk) (catalog : Option ApiDescription) : ScriptFile :=
  ⟨SdkNames.scriptFile sdk.names.errorsClass,
    Script.layout (Script.errorsSteps sdk catalog)⟩

/-- The models script of an accepted API. -/
def modelsFile (sdk : Sdk) (accepted : Sanitized) : ScriptFile :=
  ⟨SdkNames.scriptFile (sdk.names.modelsClass accepted.api.name),
    Script.layout (Script.modelsSteps sdk accepted.api)⟩

/-- The client script of an accepted API. -/
def clientFile (sdk : Sdk) (accepted : Sanitized) : ScriptFile :=
  ⟨SdkNames.scriptFile (sdk.names.clientClass accepted.api.name),
    Script.layout (Script.clientSteps sdk accepted.api)⟩

/-- The scripts of an SDK in the order in which they are written. -/
def files (sdk : Sdk) (catalog : Option ApiDescription) (accepted : List Sanitized) :
    List ScriptFile :=
  [sdk.settingsFile, sdk.errorsFile catalog]
    ++ accepted.flatMap fun api => [sdk.modelsFile api, sdk.clientFile api]

/-- The files to write for a list of APIs, or why one of them is not accepted. -/
def plan (sdk : Sdk) (apis : List ApiDescription) :
    Except Rejection (List ScriptFile) := do
  return sdk.files apis.head? (← apis.mapM sdk.accept)

/-- Write scripts below an output directory in order. The tree holds what was written
before a failure. -/
def writeFiles (sdk : Sdk) (output : FilePath) (tree : FileTree) :
    List ScriptFile → Except SdkFailure Unit × FileTree
  | [] => (.ok (), tree)
  | file :: rest =>
      match tree.write (output ++ sdk.names.addonPath) file.name file.text with
      | .ok tree => writeFiles sdk output tree rest
      | .error error => (.error (.ofWrite sdk.names.addonPath file.name error), tree)

/-- Write a whole SDK below an output directory. -/
def write (sdk : Sdk) (output : FilePath) (tree : FileTree)
    (apis : List ApiDescription) :
    Except SdkFailure Unit × FileTree :=
  match sdk.plan apis with
  | .error rejection => (.error (.rejected rejection), tree)
  | .ok files => sdk.writeFiles output tree files

end Sdk

end GodotSdk
