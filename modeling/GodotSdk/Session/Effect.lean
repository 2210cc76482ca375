import GodotSdk.Json.Value
import GodotSdk.Session.Settings

/-!
# Effects

What a call stores in the settings when its response arrives.
-/

namespace GodotSdk

/-- Results whose responses carry credentials. -/
inductive ResultRole
  | login
  | entityToken
  | customIdAuthentication
deriving DecidableEq, Repr

/-- The role of a call's result. -/
def ApiCall.resultRole? (call : ApiCall) : Option ResultRole :=
  match call.result with
  | some "LoginResult" | some "RegisterPlayFabUserResult" => some .login
  | some "GetEntityTokenResponse" => some .entityToken
  | some "AuthenticateCustomIdResult" => some .customIdAuthentication
  | _ => none

/-- A credential that is stored from a response. -/
inductive Effect
  | persistSessionTicket
  | persistEntityToken
  | persistNestedEntityToken
deriving DecidableEq, Repr

/-- The effects of a result in the order in which they happen. -/
def ResultRole.effects : ResultRole → List Effect
  | .login => [.persistSessionTicket, .persistNestedEntityToken]
  | .entityToken => [.persistEntityToken]
  | .customIdAuthentication => [.persistNestedEntityToken]

/-- The effects of a call. -/
def ApiCall.effects (call : ApiCall) : List Effect :=
  (call.resultRole?.map ResultRole.effects).getD []

namespace Effect

/-- The credential that is stored. -/
def credential : Effect → Credential
  | .persistSessionTicket => .sessionTicket
  | .persistEntityToken | .persistNestedEntityToken => .entityToken

/-- The keys that lead to the credential in a response. -/
def path : Effect → List String
  | .persistSessionTicket => ["SessionTicket"]
  | .persistEntityToken => ["EntityToken"]
  | .persistNestedEntityToken => ["EntityToken", "EntityToken"]

/-- The credential in a response, if a text is there. -/
def extract? (effect : Effect) (response : Json.Value) : Option Persist := do
  let value ← effect.path.foldlM Json.Value.get? response
  return ⟨effect.credential, ← value.text?⟩

end Effect

/-- What a call stores from a response, in order. -/
def ApiCall.persists (call : ApiCall) (response : Json.Value) : List Persist :=
  call.effects.filterMap (·.extract? response)

/-- The settings after the response to a call. -/
def ApiCall.respond (call : ApiCall) (response : Json.Value) (settings : Settings) :
    Settings :=
  (call.persists response).foldl Settings.persist settings

end GodotSdk
