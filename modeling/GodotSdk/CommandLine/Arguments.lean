import GodotSdk.Sdk.Config

/-!
# Command lines

What the arguments of the generator mean. Arguments are read from left to right: asking
for help ends the reading, and so does the first mistake. `Job.ofOperands` tells what an
SDK is generated from and where it goes.
-/

namespace GodotSdk.CommandLine

/-- A piece of a command line. -/
inductive Argument
  /-- A long option with the value attached to it. -/
  | long (name : String) (value : Option String)
  | short (letter : Char)
  | operand (text : String)
  /-- All that follows are operands. -/
  | terminator
deriving DecidableEq, Repr

namespace Argument

/-- The long option that a text after its dashes denotes. -/
def ofLongText (text : List Char) : Argument :=
  let name := text.takeWhile (· != '=')
  match text.drop name.length with
  | [] => .long (String.ofList name) none
  | _ :: value => .long (String.ofList name) (some (String.ofList value))

/-- The pieces that a text other than the terminator denotes. Short options may share a
dash, and a dash alone is an operand. -/
def ofText (text : String) : List Argument :=
  match text.toList with
  | '-' :: '-' :: rest => [ofLongText rest]
  | '-' :: letter :: letters => (letter :: letters).map .short
  | _ => [.operand text]

/-- The pieces of a command line. -/
def ofTexts : List String → List Argument
  | [] => []
  | text :: rest =>
      if text == "--" then .terminator :: rest.map .operand
      else ofText text ++ ofTexts rest

/-- How an argument is named in messages. -/
def render : Argument → String
  | .long name _ => "--" ++ name
  | .short letter => "-" ++ letter.toString
  | .operand text => text
  | .terminator => "--"

end Argument

/-- What is wrong with a command line. -/
inductive UsageError
  | missingCommand
  | unexpected (argument : Argument)
  | repeatedOption (name : String)
  | missingValue (name : String)
  | invalidVersion (text : String)
  | emptyPath
  | missingOutput
  | missingInput
deriving DecidableEq, Repr

def UsageError.message : UsageError → String
  | .missingCommand => "a command is missing"
  | .unexpected argument => "unexpected argument `" ++ argument.render ++ "`"
  | .repeatedOption name => "the option `--" ++ name ++ "` is given more than once"
  | .missingValue name => "the option `--" ++ name ++ "` needs a value"
  | .invalidVersion text => "`" ++ text ++ "` is not a semantic version"
  | .emptyPath => "a path is empty"
  | .missingOutput => "the output directory is missing"
  | .missingInput => "an API description is missing"

/-- What to generate an SDK from, and where it goes. -/
structure Job where
  output : String
  inputs : List String
  overrides : Config.Overrides
deriving DecidableEq, Repr

/-- What a command line asks for. -/
inductive Invocation
  | help
  | version
  | generate (job : Job)
deriving DecidableEq, Repr

/-- The options about an SDK. Each takes a value. -/
inductive SdkOption
  | brand
  | version
  | buildIdentifier
  | verticalName
deriving DecidableEq, Repr

/-- Give an option its value, which it must not have yet. -/
def setOnce {α : Type} (name : String) (value : α) :
    Option α → Except UsageError (Option α)
  | none => .ok (some value)
  | some _ => .error (.repeatedOption name)

namespace SdkOption

/-- The option that a name denotes. -/
def named? : String → Option SdkOption
  | "brand" => some .brand
  | "sdk-version" => some .version
  | "build-identifier" => some .buildIdentifier
  | "vertical-name" => some .verticalName
  | _ => none

def name : SdkOption → String
  | .brand => "brand"
  | .version => "sdk-version"
  | .buildIdentifier => "build-identifier"
  | .verticalName => "vertical-name"

/-- Apply an option to what was said about the SDK before it. -/
def apply (option : SdkOption) (value : String) (overrides : Config.Overrides) :
    Except UsageError Config.Overrides :=
  match option with
  | .brand => do
      return { overrides with brand := ← setOnce option.name value overrides.brand }
  | .version =>
      match Version.ofText? value with
      | some number => do
          return { overrides with
            version := ← setOnce option.name number overrides.version }
      | none => .error (.invalidVersion value)
  | .buildIdentifier => do
      return { overrides with
        buildIdentifier := ← setOnce option.name value overrides.buildIdentifier }
  | .verticalName => do
      return { overrides with
        verticalName := ← setOnce option.name value overrides.verticalName }

end SdkOption

/-- The job for operands: the output directory, then the API descriptions. -/
def Job.ofOperands (overrides : Config.Overrides) : List String → Except UsageError Job
  | [] => .error .missingOutput
  | [_] => .error .missingInput
  | output :: inputs => .ok ⟨output, inputs, overrides⟩

/-- Read what follows the command that generates an SDK, given the operands and options
before it. -/
def readJob (operands : List String) (overrides : Config.Overrides) :
    List Argument → Except UsageError Invocation
  | [] => do return .generate (← Job.ofOperands overrides operands)
  | .short 'h' :: _ | .long "help" none :: _ => .ok .help
  | .operand text :: rest =>
      if text.isEmpty then .error .emptyPath
        else readJob (operands ++ [text]) overrides rest
  | .terminator :: rest => readJob operands overrides rest
  | argument@(.short _) :: _ => .error (.unexpected argument)
  | argument@(.long name attached) :: rest =>
      match SdkOption.named? name, attached, rest with
      | none, _, _ => .error (.unexpected argument)
      | some option, some value, rest =>
          do readJob operands (← option.apply value overrides) rest
      | some option, none, .operand value :: rest => do
          readJob operands (← option.apply value overrides) rest
      | some option, none, _ => .error (.missingValue option.name)

/-- Read what help is asked for: the whole program or one of its commands. -/
def readTopic : List Argument → Except UsageError Invocation
  | [] | [.operand "codegen"] | [.operand "help"] => .ok .help
  | argument :: _ => .error (.unexpected argument)

/-- Read a command line up to its command, given whether more output is asked for
already. -/
def readCommand (verbose : Bool) : List Argument → Except UsageError Invocation
  | [] => .error .missingCommand
  | .short 'v' :: rest | .long "verbose" none :: rest =>
      if verbose then .error (.repeatedOption "verbose") else readCommand true rest
  | .short 'h' :: _ | .long "help" none :: _ => .ok .help
  | .short 'V' :: _ | .long "version" none :: _ => .ok .version
  | .operand "help" :: rest => readTopic rest
  | .operand "codegen" :: rest => readJob [] {} rest
  | argument :: _ => .error (.unexpected argument)

/-- What the arguments of the program ask for. -/
def Invocation.ofTexts (texts : List String) : Except UsageError Invocation :=
  readCommand false (Argument.ofTexts texts)

end GodotSdk.CommandLine
