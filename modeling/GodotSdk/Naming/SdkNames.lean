import GodotSdk.Naming.Sanitizer
import GodotSdk.Text.Case
import GodotSdk.Text.Word

/-!
# Names of generated scripts and classes

Every name that a generated SDK declares for itself is derived from its brand.
-/

namespace GodotSdk

/-- The names of an SDK, whose sanitizer knows its brand. -/
structure SdkNames where
  sanitizer : Sanitizer

namespace SdkNames

/-- The names for a brand. -/
def new (brand : String) : Except NamingError SdkNames := do
  return ⟨← Sanitizer.new .engineClasses brand⟩

def brand (names : SdkNames) : String :=
  names.sanitizer.brand

/-- The directory of the generated scripts, by steps from the output directory. -/
def addonPath (names : SdkNames) : List String :=
  ["addons", Text.lowercase names.brand]

/-- The file name of the script that declares a class. -/
def scriptFile (className : String) : String :=
  className ++ ".gd"

/-- The path of the script that declares a class, by steps from the output directory. -/
def scriptPath (names : SdkNames) (className : String) : List String :=
  names.addonPath ++ [scriptFile className]

def settingsClass (names : SdkNames) : String :=
  names.brand ++ "Settings"

def errorsClass (names : SdkNames) : String :=
  names.brand ++ "Errors"

/-- The class of a failed call, inside the errors script. -/
def errorClass (names : SdkNames) : String :=
  names.brand ++ "Error"

/-- The class of a failed call as other scripts name it. -/
def errorReference (names : SdkNames) : String :=
  names.errorsClass ++ "." ++ names.errorClass

/-- The class that sends requests, which is not generated. -/
def httpClass (names : SdkNames) : String :=
  names.brand ++ "Http"

def clientClass (names : SdkNames) (api : String) : String :=
  names.brand ++ api ++ "API"

def modelsClass (names : SdkNames) (api : String) : String :=
  names.brand ++ api ++ "Models"

/-- A model class as other scripts name it. What has no type is a dictionary. -/
def modelReference (names : SdkNames) (api : String) : Option String → String
  | some datatype => names.modelsClass api ++ "." ++ names.sanitizer.className datatype
  | none => "Dictionary"

end SdkNames

/-- The path of a file as text. -/
def renderFilePath (path : List String) : String :=
  "/".intercalate path

/-- The function that sends a call. -/
def methodName (call : String) : String :=
  Text.snakeCase call

end GodotSdk
