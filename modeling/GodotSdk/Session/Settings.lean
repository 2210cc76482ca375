import GodotSdk.Schema.Api

/-!
# Credentials and settings

What a call may authenticate with, how each credential is sent and asked for, and the
settings object that calls read and that login calls store credentials in. An empty text
counts as absent.
-/

namespace GodotSdk

/-! ## Credentials -/

inductive Credential
  | entityToken
  | secretKey
  | sessionTicket
deriving DecidableEq, Repr

namespace Credential

/-- All credentials, the strongest first. -/
def preference : List Credential :=
  [.entityToken, .sessionTicket, .secretKey]

/-- The header that carries the credential. -/
def header : Credential → String
  | .entityToken => "X-EntityToken"
  | .secretKey => "X-SecretKey"
  | .sessionTicket => "X-Authorization"

/-- The field of the settings object that stores the credential. -/
def settingsField : Credential → String
  | .entityToken => "entity_token"
  | .secretKey => "developer_secret_key"
  | .sessionTicket => "session_ticket"

/-- What is logged when the credential is missing. -/
def missingLog : Credential → String
  | .entityToken => "Must call GetEntityToken before calling this method"
  | .secretKey => "Must have DeveloperSecretKey set to call this method"
  | .sessionTicket => "Must be logged in to call this method"

/-- What is reported when the credential is missing. -/
def missingError : Credential → String
  | .entityToken => "Must call GetEntityToken first"
  | .secretKey => "Must have DeveloperSecretKey set"
  | .sessionTicket => "Must be logged in"

end Credential

/-- The credential that an authentication mode requires. -/
def AuthMode.credential? : AuthMode → Option Credential
  | .anonymous => none
  | .entityToken => some .entityToken
  | .secretKey => some .secretKey
  | .sessionTicket => some .sessionTicket

/-! ## Settings -/

structure Settings where
  titleId : Option String
  developerSecretKey : Option String
  sessionTicket : Option String
  entityToken : Option String
deriving DecidableEq, Repr

/-- A credential to be stored, with its value. -/
structure Persist where
  credential : Credential
  value : String
deriving DecidableEq, Repr

namespace Settings

/-- A stored value, unless it is empty. -/
def present (value : Option String) : Option String :=
  value.filter fun text => !text.isEmpty

theorem present_eq_some_iff {value : Option String} {text : String} :
    present value = some text ↔ value = some text ∧ text ≠ "" := by
  simp [present, Option.filter_eq_some_iff]

/-- The title id, if one is set. -/
def presentTitleId (settings : Settings) : Option String :=
  present settings.titleId

/-- The stored value of a credential as it is. -/
def stored (settings : Settings) : Credential → Option String
  | .entityToken => settings.entityToken
  | .secretKey => settings.developerSecretKey
  | .sessionTicket => settings.sessionTicket

/-- The value of a credential, if one is set. -/
def credential? (settings : Settings) (credential : Credential) : Option String :=
  present (settings.stored credential)

/-- The strongest credential that is set, with its value. -/
def best? (settings : Settings) : Option (Credential × String) :=
  Credential.preference.findSome? fun credential =>
    (settings.credential? credential).map (credential, ·)

/-- Store a credential. -/
def persist (settings : Settings) (change : Persist) : Settings :=
  match change.credential with
  | .entityToken => { settings with entityToken := some change.value }
  | .secretKey => { settings with developerSecretKey := some change.value }
  | .sessionTicket => { settings with sessionTicket := some change.value }

@[simp] theorem titleId_persist (settings : Settings) (change : Persist) :
    (settings.persist change).titleId = settings.titleId := by
  unfold persist
  split <;> rfl

theorem stored_persist (settings : Settings) (change : Persist)
    (credential : Credential) :
    (settings.persist change).stored credential =
      if change.credential = credential then some change.value
        else settings.stored credential := by
  obtain ⟨own, value⟩ := change
  cases own <;> cases credential <;> rfl

end Settings

/-- The kinds of errors that a call reports by itself. -/
inductive ErrorKind
  | invalidRequest
  | notAuthenticated
deriving DecidableEq, Repr

def ErrorKind.name : ErrorKind → String
  | .invalidRequest => "InvalidRequest"
  | .notAuthenticated => "NotAuthenticated"

/-- An error that a call reports instead of sending its request. -/
structure CallError where
  kind : ErrorKind
  message : String
deriving DecidableEq, Repr

def CallError.render (error : CallError) : String :=
  error.kind.name ++ ": " ++ error.message

end GodotSdk
