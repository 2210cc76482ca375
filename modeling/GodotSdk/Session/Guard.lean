import GodotSdk.Json.Value
import GodotSdk.OrderedMap
import GodotSdk.Session.Settings

/-!
# Guards

What happens before a call sends its request. A guard looks at the settings and the
request; it either lets the call go on, with the header to authenticate with, or reports
an error.
-/

namespace GodotSdk

/-- Calls that are prepared in a way of their own. -/
inductive CallRole
  | login
  | registration
  | entityTokenAcquisition
deriving DecidableEq, Repr

/-- The role of a call. Its result is looked at first, then its request, then its
URL. -/
def ApiCall.role? (call : ApiCall) : Option CallRole :=
  if call.result = some "LoginResult" then some .login
  else if call.request = some "RegisterPlayFabUserRequest" then some .registration
  else if call.url = "/Authentication/GetEntityToken" then some .entityTokenAcquisition
  else none

/-- A check before a request is sent. -/
inductive Guard
  /-- Fill in the title id from the settings, and fail without one. -/
  | titleId
  /-- Authenticate with the strongest credential that is set, if any. -/
  | selectCredential
  /-- Fail unless the credential is set. -/
  | require (credential : Credential)
deriving DecidableEq, Repr

/-- The guard of a call. Its role goes before its authentication mode. -/
def ApiCall.guard? (call : ApiCall) : Option Guard :=
  match call.role? with
  | some .login | some .registration => some .titleId
  | some .entityTokenAcquisition => some .selectCredential
  | none => call.auth.credential?.map .require

/-- A header that authenticates a request. -/
structure AuthHeader where
  name : String
  value : String
deriving DecidableEq, Repr

/-- The header that carries a credential. -/
def AuthHeader.of (credential : Credential) (value : String) : AuthHeader :=
  ⟨credential.header, value⟩

/-- The key of the title id in requests. -/
def titleIdKey : String := "TitleId"

def missingTitleId : CallError :=
  ⟨.invalidRequest, "Must have TitleId set"⟩

def notAuthenticated (credential : Credential) : CallError :=
  ⟨.notAuthenticated, credential.missingError⟩

/-- The body of a request. -/
abbrev Request := OrderedMap Json.Value

/-- What a guard decides, what it reports, and the request after it. -/
structure GuardOutcome where
  result : Except CallError (Option AuthHeader)
  reported : Option CallError
  request : Request

namespace Guard

/-- What is logged when the guard fails. -/
def failureLog? : Guard → Option String
  | .titleId => some "Must have TitleId set to call this method"
  | .selectCredential => none
  | .require credential => some credential.missingLog

/-- What is reported when the guard fails. -/
def failure? : Guard → Option CallError
  | .titleId => some missingTitleId
  | .selectCredential => none
  | .require credential => some (notAuthenticated credential)

/-- The request with the title id of the settings, or with an empty one if it had none
at all. -/
def withTitleId (settings : Settings) (request : Request) : Request :=
  match settings.presentTitleId with
  | some text => request.insert titleIdKey (.string text)
  | none =>
      match request.get? titleIdKey with
      | some _ => request
      | none => request.insert titleIdKey (.string "")

/-- Whether a request has a title id. -/
def hasTitleId (request : Request) : Bool :=
  match request.get? titleIdKey with
  | some (.string text) => !text.isEmpty
  | _ => false

/-- The request as the guard leaves it. -/
def prepare (guard : Guard) (settings : Settings) (request : Request) : Request :=
  match guard with
  | .titleId => withTitleId settings request
  | _ => request

/-- What the guard decides about a prepared request. -/
def decide (guard : Guard) (settings : Settings) (request : Request) :
    Except CallError (Option AuthHeader) :=
  match guard with
  | .titleId => if hasTitleId request then .ok none else .error missingTitleId
  | .selectCredential =>
      .ok (settings.best?.map fun (credential, value) => AuthHeader.of credential value)
  | .require credential =>
      match settings.credential? credential with
      | some value => .ok (some (AuthHeader.of credential value))
      | none => .error (notAuthenticated credential)

/-- Run a guard. A failure is also reported. -/
def check (guard : Guard) (settings : Settings) (request : Request) : GuardOutcome :=
  let request := guard.prepare settings request
  let result := guard.decide settings request
  ⟨result, match result with | .error error => some error | .ok _ => none, request⟩

end Guard

end GodotSdk
