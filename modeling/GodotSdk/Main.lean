import GodotSdk.CommandLine.Run
import Std.Time.DateTime.PlainDateTime
import Std.Time.DateTime.Timestamp

/-!
# The program

The command line of the generator in the file system. It hands the steps of a run what
they ask for and writes what they plan.
-/

namespace GodotSdk.CommandLine

def helpText : String :=
  "Generates GDScript SDKs from API descriptions.

Usage: gdgen [--verbose] codegen [OPTIONS] <OUTPUT> <INPUTS>...

Options:
      --brand <BRAND>
      --sdk-version <SDK_VERSION>
      --build-identifier <BUILD_IDENTIFIER>
      --vertical-name <VERTICAL_NAME>
  -v, --verbose
  -h, --help
  -V, --version"

def versionText : String :=
  "gdgen 0.1.0"

/-- The time that the clock shows. -/
def currentTime : IO Timestamp := do
  let now ← Std.Time.Timestamp.now
  let clock :=
    Std.Time.PlainDateTime.ofWallTime (.ofNanoseconds now.toNanosecondsSinceUnixEpoch)
  let second := clock.time.toSeconds.val.toNat
  let nano := clock.time.nanosecond.val.toNat
  match Date.of? clock.date.year.toInt clock.date.month.val.toNat
    clock.date.day.val.toNat with
  | some date =>
      match Timestamp.of? date second nano with
      | some time => return time
      | none => throw (IO.userError "the clock shows no time of the day")
  | none => throw (IO.userError "the clock shows no date")

/-- The text of a file. -/
def readFile (path : String) : IO (Except LookupError String) := do
  try
    return .ok (← IO.FS.readFile path)
  catch
    | .noFileOrDirectory .. => return .error .missing
    | _ => return .error .blocked

/-- Write a script into a directory, which is created if need be. -/
def writeScript (directory : String) (file : ScriptFile) :
    IO (Except WriteError Unit) := do
  try
    IO.FS.createDirAll directory
  catch _ => return .error .directory
  try
    IO.FS.writeFile (directory ++ "/" ++ file.name) file.text
    return .ok ()
  catch _ => return .error .file

/-- Do a job in the file system. -/
def Job.perform (job : Job) : IO (Except Failure Unit) := do
  let texts ← job.reads.mapM fun path => return (path, ← readFile path)
  let read (path : String) : Except LookupError String :=
    (texts.lookup path).getD (.error .missing)
  match job.prepare (← currentTime) read with
  | .error failure => return .error failure
  | .ok (sdk, apis) =>
      match sdk.plan apis with
      | .error rejection => return .error (.sdk (.rejected rejection))
      | .ok files =>
          let directory := renderFilePath (job.output :: sdk.names.addonPath)
          for file in files do
            if let .error error ← writeScript directory file then
              return .error (.sdk (.ofWrite sdk.names.addonPath file.name error))
          return .ok ()

/-- Tell how a run ended. -/
def report (output : String) (result : Except Failure Unit) : IO UInt32 := do
  if let .error failure := result then
    IO.eprintln ("error: " ++ failure.message output)
  return (exitCode result).toUInt32

end GodotSdk.CommandLine

open GodotSdk.CommandLine in
def main (arguments : List String) : IO UInt32 := do
  match Invocation.ofTexts arguments with
  | .error error => report "" (.error (.usage error))
  | .ok .help =>
      IO.println helpText
      return 0
  | .ok .version =>
      IO.println versionText
      return 0
  | .ok (.generate job) => report job.output (← job.perform)
