import GodotSdk.CommandLine.Arguments
import GodotSdk.Schema.Description
import GodotSdk.Schema.FromToml
import GodotSdk.Sdk.Files

/-!
# Running the generator

A run reads all it needs before it writes anything: the configuration file, which lies
in the output directory, then the API descriptions in order. What a run reads is given
as a function from paths, so that the same steps serve a `FileTree` and the file system.
-/

namespace GodotSdk.CommandLine

/-- Why a run failed. -/
inductive Failure
  | usage (error : UsageError)
  | unreadableConfig (path : String)
  | invalidConfig (path : String)
  | unreadableInput (path : String)
  | unsupportedInput (path : String)
  | invalidInput (path : String)
  | invalidBrand (error : NamingError)
  | sdk (failure : SdkFailure)
deriving DecidableEq, Repr

/-- How a run ends, as its caller sees it. -/
def exitCode : Except Failure Unit → Nat
  | .ok () => 0
  | .error (.usage _) | .error (.unreadableConfig _) | .error (.invalidConfig _) => 2
  | .error _ => 1

/-- What is said about a failure of a run with a given output directory. -/
def Failure.message (output : String) : Failure → String
  | .usage error => error.message
  | .unreadableConfig path => "Failed to read `" ++ path ++ "`"
  | .invalidConfig path => "Failed to parse `" ++ path ++ "`"
  | .unreadableInput path => "Failed to read `" ++ path ++ "`"
  | .unsupportedInput path =>
      "Unsupported API description `" ++ path ++ "`; expected a `.json` or `.yaml` file"
  | .invalidInput path => "Failed to parse `" ++ path ++ "`"
  | .invalidBrand error => "Invalid brand: " ++ error.message
  | .sdk failure => failure.message output

/-- A format of API descriptions. -/
inductive Format
  | json
  | yaml
deriving DecidableEq, Repr

/-- The format that the name of a file tells by what follows its last dot. A dot that
begins a name tells nothing. -/
def Format.ofFileName? (name : String) : Option Format :=
  match name.toList.reverse.span (· != '.') with
  | (extension, '.' :: _ :: _) =>
      match String.ofList extension.reverse with
      | "json" => some .json
      | "yaml" | "yml" => some .yaml
      | _ => none
  | _ => none

/-- Read a description in a format. -/
def Format.read? : Format → String → Option ApiDescription
  | .json, text => (ApiDescription.ofJson text).toOption
  | .yaml, text => (ApiDescription.ofYaml text).toOption

/-- The name of the file at a path. -/
def fileName (path : String) : String :=
  (path.splitOn "/").getLast?.getD path

/-- Read an API description. -/
def readInput (read : String → Except LookupError String) (path : String) :
    Except Failure ApiDescription :=
  match read path with
  | .error _ => .error (.unreadableInput path)
  | .ok text =>
      match Format.ofFileName? (fileName path) with
      | none => .error (.unsupportedInput path)
      | some format =>
          match format.read? text with
          | some api => .ok api
          | none => .error (.invalidInput path)

namespace Job

/-- The path of the configuration file. -/
def configPath (job : Job) : String :=
  job.output ++ "/.gdgen.toml"

/-- The paths of all files that a job reads. -/
def reads (job : Job) : List String :=
  job.configPath :: job.inputs

/-- The configuration for a job. What its options say takes precedence over the
configuration file, which may be missing. -/
def config (job : Job) (read : String → Except LookupError String) :
    Except Failure Config :=
  match read job.configPath with
  | .error .missing => .ok (Config.standard.override job.overrides)
  | .error .blocked => .error (.unreadableConfig job.configPath)
  | .ok text =>
      match Config.ofToml? text with
      | some config => .ok (config.override job.overrides)
      | none => .error (.invalidConfig job.configPath)

/-- Read all that a job needs. -/
def prepare (job : Job) (now : Timestamp) (read : String → Except LookupError String) :
    Except Failure (Sdk × List ApiDescription) := do
  let config ← job.config read
  let apis ← job.inputs.mapM (readInput read)
  let sdk ← (Sdk.new config now).mapError .invalidBrand
  return (sdk, apis)

/-- Do a job in a file tree. What would be written outside the tree leaves no trace in
it. -/
def run (job : Job) (now : Timestamp) (tree : FileTree) :
    Except Failure Unit × FileTree :=
  match job.prepare now tree.read with
  | .error failure => (.error failure, tree)
  | .ok (sdk, apis) =>
      match FilePath.ofText? job.output with
      | some output =>
          let (result, tree) := sdk.write output tree apis
          (result.mapError .sdk, tree)
      | none => ((sdk.plan apis).mapError (.sdk ∘ .rejected) >>= fun _ => .ok (), tree)

end Job

/-- Run the program with arguments in a file tree. -/
def run (arguments : List String) (now : Timestamp) (tree : FileTree) :
    Except Failure Unit × FileTree :=
  match Invocation.ofTexts arguments with
  | .error error => (.error (.usage error), tree)
  | .ok (.generate job) => job.run now tree
  | .ok .help | .ok .version => (.ok (), tree)

end GodotSdk.CommandLine
