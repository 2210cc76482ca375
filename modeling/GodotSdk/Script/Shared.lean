import GodotSdk.Script.Code
import GodotSdk.Script.Layout
import GodotSdk.Sdk.Config
import GodotSdk.Session.Settings

/-!
# Scripts that all APIs share

The script with the settings object, which every function takes and login calls store
credentials in, and the script with the class of failed calls and the codes of the error
catalog.
-/

namespace GodotSdk.Script

/-! ## The settings script -/

/-- The constants that tell which build the scripts belong to. -/
def buildConstants (config : Config) : List Step :=
  let version := match config.version with
    | some version => [.line ("const SDK_VERSION := " ++ quote version.render)]
    | none => []
  let build := match config.buildIdentifier with
    | some build => [.line ("const BUILD_IDENTIFIER := " ++ quote build)]
    | none => []
  if version.isEmpty && build.isEmpty then [] else .blank :: (version ++ build)

/-- The field that stores a credential. -/
def credentialField (credential : Credential) : List Step := [
  .doc ("Sent as `" ++ credential.header ++ "`."),
  .line ("var " ++ credential.settingsField ++ ": String = \"\"")]

/-- The settings script. -/
def settingsSteps (sdk : Sdk) : List Step :=
  scriptHeader
    ("Settings and credentials for " ++ sdk.names.brand ++
      " API calls. Pass the same instance to every "
      ++ "call, so that credentials from a login are used by the calls that follow it.")
    sdk.names.settingsClass
  ++ buildConstants sdk.config
  ++ [.blank,
    .line "var title_id: String = \"\"",
    .line ("var vertical_name: String = " ++ quote (sdk.config.verticalName.getD ""))]
  ++ Credential.preference.flatMap credentialField
  ++ [.blank,
    .doc "Forgets the credentials stored by login calls.",
    .block "func forget_all_credentials() -> void"
      ([Credential.sessionTicket, .entityToken].map fun credential =>
        .line (credential.settingsField ++ " = \"\""))]

/-! ## The errors script -/

/-- The errors of a catalog that have a code and a name that can be declared, in the
order of its list. -/
def errorCodes (catalog : Option ApiDescription) : List (String × Int64) :=
  match catalog with
  | some api => api.errorList.filterMap fun name =>
      (api.errors.get? name).bind fun code =>
        if Text.isIdentifier name then some (name, code.id) else none
  | none => []

/-- The enumeration of error codes, unless there are none. -/
def errorCodeSteps (codes : List (String × Int64)) : List Step :=
  if codes.isEmpty then []
  else [
    .blank,
    .line "enum ErrorCode \x7b",
    .indented (codes.map fun (name, id) =>
      .line (name ++ " = " ++ toString id.toInt ++ ",")), .line "\x7d"]

/-- The class of failed calls. -/
def errorClassSteps (names : SdkNames) : List Step := [
  .doc
    ("A failed call. Carries the service's error response, or an error that the SDK reported before "
    ++ "sending the request."),
  .block ("class " ++ names.errorClass ++ " extends RefCounted") [
    .line "var error: String = \"\"",
    .line "var error_code: int = 0",
    .line "var error_message: String = \"\"",
    .line "var error_details: Dictionary = \x7b\x7d",
    .line "var http_code: int = 0",
    .line "var http_status: String = \"\"",
    .blank,
    .block "func _init(data: Dictionary = \x7b\x7d) -> void" [
      .line "error = data.get(\"error\", \"\")",
      .line "error_code = data.get(\"errorCode\", 0)",
      .line "error_message = data.get(\"errorMessage\", \"\")",
      .block "if data.get(\"errorDetails\") is Dictionary" [
        .line "error_details = data[\"errorDetails\"]"],
      .line "http_code = data.get(\"code\", 0)",
      .line "http_status = data.get(\"status\", \"\")"],
    .blank,
    .doc "Returns the error message, followed by each detail.",
    .block "func generate_error_report() -> String" [
      .line "var report := error_message",
      .block "for key in error_details" [
        .line "report += \"\\n%s: %s\" % [key, error_details[key]]"],
      .line "return report"]]]

/-- The errors script, with the codes of a catalog. -/
def errorsSteps (sdk : Sdk) (catalog : Option ApiDescription) : List Step :=
  scriptHeader ("Errors reported by " ++ sdk.names.brand ++ " API calls.")
    sdk.names.errorsClass ++ errorCodeSteps (errorCodes catalog) ++ [.blank, .blank]
    ++ errorClassSteps sdk.names

end GodotSdk.Script
