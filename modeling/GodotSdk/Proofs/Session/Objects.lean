import GodotSdk.Proofs.Naming.EngineClasses
import GodotSdk.Proofs.Script.Run
import GodotSdk.Script.Directive

/-!
# What functions are called with

The settings, the request and the errors of a session as the values that generated code
handles, and the state in which a generated function begins.
-/

namespace GodotSdk

/-- The names of an SDK with the standard brand. -/
def SdkNames.standard : SdkNames :=
  ⟨.standard⟩

namespace Settings

theorem isSome_present (value : Option String) :
    (present value).isSome = !(value.getD "").isEmpty := by
  cases value with
  | none => rfl
  | some text => cases empty : text.isEmpty <;> simp [present, Option.filter, empty]

theorem getD_of_present {value : Option String} {text : String}
    (found : present value = some text) :
    value.getD "" = text := by
  rw [(present_eq_some_iff.mp found).1, Option.getD_some]

end Settings

namespace Script

namespace Value

theorem lookup_ofMembers (members : List (String × Json.Value)) (key : String) :
    (ofMembers members).lookup key = (members.lookup key).map ofJson := by
  induction members with
  | nil => rfl
  | cons member rest ih =>
      obtain ⟨other, value⟩ := member
      simp only [ofMembers, List.lookup_cons, ih]
      cases key == other <;> rfl

theorem putEntry_ofMembers (members : List (String × Json.Value)) (key : String)
    (value : Json.Value) :
    putEntry key (ofJson value) (ofMembers members) =
      ofMembers (putEntry key value members) := by
  induction members with
  | nil => rfl
  | cons member rest ih =>
      obtain ⟨other, old⟩ := member
      by_cases equal : other = key
      · simp [ofMembers, putEntry, equal]
      · simp [ofMembers, putEntry, equal, ih]

/-- A request as a function receives it. -/
def ofRequest (request : Request) : Value :=
  .dictionary (ofMembers request.entries)

@[simp] theorem index?_ofRequest (request : Request) (key : String) :
    (ofRequest request).index? (.string key) = (request.get? key).map ofJson :=
  lookup_ofMembers request.entries key

@[simp] theorem method?_has_ofRequest (request : Request) (key : String) :
    (ofRequest request).method? "has" [.string key] =
      some (.bool (request.get? key).isSome) := by
  simp [ofRequest, method?, lookup_ofMembers, OrderedMap.get?]

@[simp] theorem setIndex?_ofRequest (request : Request) (key : String)
    (value : Json.Value) :
    (ofRequest request).setIndex? (.string key) (ofJson value) =
      some (ofRequest (request.insert key value)) := by
  simp [ofRequest, setIndex?, putEntry_ofMembers, OrderedMap.insert]

/-- The settings object. What is not set is an empty text in it. -/
def ofSettings (settings : Settings) : Value :=
  .object [
    ("title_id", settings.titleId.getD ""),
    ("entity_token", settings.entityToken.getD ""),
    ("session_ticket", settings.sessionTicket.getD ""),
    ("developer_secret_key", settings.developerSecretKey.getD "")]

@[simp] theorem field?_ofSettings_titleId (settings : Settings) :
    (ofSettings settings).field? "title_id" =
      some (.string (settings.titleId.getD "")) := by
  simp [ofSettings, field?]

@[simp] theorem field?_ofSettings (settings : Settings) (credential : Credential) :
    (ofSettings settings).field? credential.settingsField =
      some (.string ((settings.stored credential).getD "")) := by
  cases credential <;> simp [ofSettings, field?, List.lookup_cons,
    Credential.settingsField, Settings.stored]

@[simp] theorem setField?_ofSettings (settings : Settings) (credential : Credential)
    (text : String) :
    (ofSettings settings).setField? credential.settingsField (.string text) =
      some (ofSettings (settings.persist ⟨credential, text⟩)) := by
  cases credential <;>
    simp [ofSettings, setField?, List.lookup_cons, Credential.settingsField,
      Settings.persist, putEntry]

/-- A text counts as true exactly if the settings take it for present. -/
theorem truthy_getD (value : Option String) :
    (Value.string (value.getD "")).truthy = (Settings.present value).isSome :=
  (Settings.isSome_present value).symm

/-- The object that reports an error. -/
def ofError (names : SdkNames) (error : CallError) : Value :=
  .made names.errorReference [.dictionary [
    ("error", .string error.kind.name), ("errorMessage", .string error.message)]]

end Value

/-- The state at the start of a generated function, whose callback may be missing. -/
def State.entry (names : SdkNames) (settings : Settings) (request : Request)
    (listening : Bool) : State where
  locals := [
    ("settings", .ofSettings settings), ("request", .ofRequest request),
    ("callback", .callable listening)]
  members := []
  classes := [names.errorReference, names.httpClass]
  notified := []
  logged := []
  sent := []

/-- The state in which a completion function begins, which can see what its function
sees. -/
def State.receive (state : State) (response : Json.Value) : State :=
  { state with
    locals := (responseName, .ofJson response) :: ("error", .null) :: state.locals }

end Script

end GodotSdk
