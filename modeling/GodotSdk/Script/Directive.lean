import GodotSdk.Naming.SdkNames
import GodotSdk.Script.Code
import GodotSdk.Session.Effect
import GodotSdk.Session.Guard

/-!
# Directives in scripts

The statements that check a guard before a request, pass the credential on, and store
credentials from the response.
-/

namespace GodotSdk.Script

/-- The settings object, a parameter of every generated function. -/
def settings : Expr := .variable "settings"

/-- The request dictionary, a parameter of every generated function. -/
def request : Expr := .variable "request"

/-- The completion callback, a parameter of every generated function. -/
def callback : Expr := .variable "callback"

/-- The name of the response in completion functions. -/
def responseName : String := "playfab_result"

/-- The field of the settings that stores a credential. -/
def storedCredential (credential : Credential) : Expr :=
  .field settings credential.settingsField

/-- Call the callback with a result and an error, if it is there. -/
def notify (result error : Expr) : Statement :=
  .when (.invoke callback "is_valid" [])
    [.perform (.invoke callback "call" [result, error])]

/-- A new error object. -/
def errorObject (names : SdkNames) (error : CallError) : Expr :=
  .invoke (.variable names.errorReference) "new" [.dictionary [
    (.text "error", .text error.kind.name),
    (.text "errorMessage", .text error.message)]]

/-- What a function does when its guard fails: log, report and return. -/
def failure (names : SdkNames) (guard : Guard) : List Statement :=
  (match guard.failureLog? with
    | some message => [.call "push_error" [.text message]]
    | none => [])
  ++ (match guard.failure? with
    | some error => [notify .null (errorObject names error)]
    | none => [])
  ++ [.leave]

/-- The title id of the settings. -/
def storedTitleId : Expr := .field settings "title_id"

/-- The title id of the request. -/
def requestTitleId : Expr := .index request (.text titleIdKey)

/-- The variables that hold the header of the strongest credential. -/
def authKey : Expr := .variable "auth_key"

def authValue : Expr := .variable "auth_value"

/-- The statements that check a guard. -/
def guardCode (names : SdkNames) (guard : Guard) : List Statement :=
  match guard with
  | .titleId => [
      .choose [
        (storedTitleId, [.assign requestTitleId storedTitleId]),
        (.not (.invoke request "has" [.text titleIdKey]),
          [.assign requestTitleId (.text "")])],
      .when (.not requestTitleId) (failure names .titleId)]
  | .selectCredential => [
      .declare "auth_key" (.text ""),
      .declare "auth_value" (.text ""),
      .choose (Credential.preference.map fun credential =>
        (storedCredential credential, [
          .assign authKey (.text credential.header),
          .assign authValue (storedCredential credential)]))]
  | .require credential => [
      .when (.not (storedCredential credential)) (failure names (.require credential))]

/-- The header and its value as arguments, once the guard of a call has passed. -/
def authArguments (call : ApiCall) : List Expr :=
  if call.guard? = some .selectCredential then [authKey, authValue]
  else
    match call.auth.credential? with
    | some credential => [.text credential.header, storedCredential credential]
    | none => [.text "", .text ""]

/-- The value in the response at the end of a path of keys. -/
def responseAt (path : List String) : Expr :=
  path.foldl (fun value key => .index value (.text key)) (.variable responseName)

/-- A test for each key of a path, where `before` leads to the first of them. -/
def pathTests (before : List String) : List String → List Expr
  | [] => []
  | key :: rest =>
      .invoke (responseAt before) "has" [.text key] :: pathTests (before ++ [key]) rest

/-- The condition that all of several tests hold. -/
def conjunction : List Expr → Expr
  | [] => .null
  | first :: rest => rest.foldl .and first

/-- Store a credential from the response, if it is there. -/
def effectCode (effect : Effect) : Statement :=
  .when (conjunction (pathTests [] effect.path))
    [.assign (storedCredential effect.credential) (responseAt effect.path)]

/-- The statements that store credentials from the response. -/
def effectsCode (effects : List Effect) : List Statement :=
  if effects.isEmpty then []
    else [.when (.variable responseName) (effects.map effectCode)]

end GodotSdk.Script
