import GodotSdk.Proofs.Session.GuardAgreement
import GodotSdk.Script.Api

/-!
# Headers as sent

The header that a generated function hands to the HTTP layer, against the one that the
guard of the call gave. The guard looks at the role of a call first, but the arguments
look at its authentication mode unless the guard selects a credential. So they differ
for logins and registrations that declare a credential, and for no other call.
-/

namespace GodotSdk

namespace ApiCall

/-- The header to authenticate a call with, once its guard has passed. A call without a
guard has none. -/
def authorize (call : ApiCall) (settings : Settings) (request : Request) :
    Except CallError (Option AuthHeader) :=
  match call.guard? with
  | some guard => (guard.check settings request).result
  | none => .ok none

/-- The request that a call sends, once its guard has passed. -/
def prepare (call : ApiCall) (settings : Settings) (request : Request) : Request :=
  match call.guard? with
  | some guard => (guard.check settings request).request
  | none => request

/-- The values of the header arguments: of the strongest credential if the guard selects
one, and otherwise of the credential that the call declares, whether it is set or not.
-/
def headerValues (call : ApiCall) (settings : Settings) : String × String :=
  if call.guard? = some .selectCredential then
    match settings.best? with
    | some (credential, value) => (credential.header, value)
    | none => ("", "")
  else
    match call.auth.credential? with
    | some credential => (credential.header, (settings.stored credential).getD "")
    | none => ("", "")

variable {call : ApiCall}

/-- A guard that is neither for a title id nor selects a credential requires the
credential that the call declares. -/
theorem credential?_of_guard? (required : Option Credential)
    (guarded : call.guard? = required.map .require) :
    call.auth.credential? = required := by
  unfold guard? at guarded
  split at guarded
  · cases required <;> cases guarded
  · cases required <;> cases guarded
  · cases required <;> cases guarded
  · have injective : Function.Injective Guard.require := fun _ _ => Guard.require.inj
    exact Option.map_injective injective guarded

theorem credential?_isNone_iff :
    call.auth.credential? = none ↔ call.auth = .anonymous := by
  cases call.auth <;> simp [AuthMode.credential?]

end ApiCall

theorem Credential.header_ne_empty (credential : Credential) :
    credential.header ≠ "" := by
  cases credential <;> simp [header]

namespace Script

/-- The statements of the function of a call. -/
def functionCode (names : SdkNames) (call : ApiCall) : List Statement :=
  call.guard?.toList.flatMap (guardCode names) ++ [sendCode names call]

/-- What the HTTP layer is asked for by a call. -/
def Sent.ofCall (names : SdkNames) (call : ApiCall) (settings : Settings)
    (request : Request) (name value : String) : Sent where
  receiver := .type names.httpClass
  method := "post"
  arguments := [.ofSettings settings, .string call.url, .ofRequest request,
    .string name, .string value]
  parameters := [responseName, "error"]
  body := completion call

open State Statement

variable {state : State} {names : SdkNames} {call : ApiCall} {settings : Settings}
  {request : Request}
  {listening : Bool}

/-! ## Running the function of a call -/

theorem run_sendCode {name value : String}
    (sees : state.Sees names settings request listening)
    (evaluated : state.evalAll (authArguments call) =
      some [.string name, .string value]) :
    (sendCode names call).run state =
      ({ state with
        sent := state.sent ++ [.ofCall names call settings request name value] },
        .next) := by
  have arguments : state.evalAll
      (Script.settings :: .text call.url :: Script.request :: authArguments call) =
        some [.ofSettings settings, .string call.url, .ofRequest request, .string name,
          .string value] := by
    simp [evalAll, eval, Script.settings, Script.request, get?_of_local sees.settings,
      get?_of_local sees.request, evaluated]
  simp [sendCode, run, proceed, send, arguments, eval, sees.httpClass, Sent.ofCall]

theorem evalAll_authArguments (sees : state.Sees names settings request listening)
    (unselected : call.guard? ≠ some .selectCredential) :
    state.evalAll (authArguments call) =
      some [.string (call.headerValues settings).1,
        .string (call.headerValues settings).2] := by
  rw [authArguments, if_neg unselected, ApiCall.headerValues, if_neg unselected]
  cases call.auth.credential? with
  | none => simp [evalAll, eval]
  | some credential => simp [evalAll, eval, eval_storedCredential sees]

theorem evalAll_authArguments_selected (state : State)
    (selected : call.guard? = some .selectCredential) (name value : String) :
    (state.withHeader name value).evalAll (authArguments call) =
      some [.string name, .string value] := by
  simp [authArguments, selected, authKey, authValue, evalAll, eval, get?,
    State.withHeader, lookup_entry]

/-- If the guard of a call passes, its statements go on to a state in which the header
arguments have their values. -/
theorem runAll_guard_of_passed (names : SdkNames) (listening : Bool)
    {header : Option AuthHeader}
    (passed : call.authorize settings request = .ok header) :
    ∃ after, runAll (call.guard?.toList.flatMap (guardCode names))
      (.entry names settings request listening) = (after, .next) ∧
      after.Sees names settings (call.prepare settings request) listening ∧
        after.sent = [] ∧ after.evalAll (authArguments call) =
        some [.string (call.headerValues settings).1,
          .string (call.headerValues settings).2] := by
  have sees := sees_entry names settings request listening
  unfold ApiCall.authorize at passed
  cases guarded : call.guard? with
  | none =>
      refine ⟨.entry names settings request listening, rfl, ?_, rfl, ?_⟩
      · simpa [ApiCall.prepare, guarded] using sees
      · exact evalAll_authArguments sees (by simp [guarded])
  | some guard =>
      simp only [guarded] at passed
      simp only [Option.toList_some, List.flatMap_singleton, ApiCall.prepare, guarded]
      cases guard with
      | titleId =>
          obtain ⟨value, own⟩ := Guard.exists_titleId settings request
          have has : Guard.hasTitleId (Guard.withTitleId settings request) = true := by
            cases has : Guard.hasTitleId (Guard.withTitleId settings request) with
            | true => rfl
            | false => simp [Guard.check, Guard.decide, Guard.prepare, has] at passed
          have seesFilled := sees.assign_request (Guard.withTitleId settings request)
          refine ⟨_, ?_, seesFilled, rfl,
            evalAll_authArguments seesFilled (by simp [guarded])⟩
          rw [runAll_guardCode_titleId sees own,
            if_pos (Guard.truthy_of_hasTitleId own has)]
      | selectCredential =>
          have values :=
            evalAll_authArguments_selected
              (.entry names settings request listening) guarded
            (call.headerValues settings).1 (call.headerValues settings).2
          refine ⟨_, ?_, sees.withHeader _ _, rfl, values⟩
          rw [runAll_guardCode_selectCredential sees, ApiCall.headerValues,
            if_pos guarded]
          cases settings.best? <;> rfl
      | require credential =>
          have set : (settings.credential? credential).isSome = true := by
            cases present : settings.credential? credential with
            | some value => rfl
            | none => simp [Guard.check, Guard.decide, present] at passed
          refine ⟨_, ?_, sees, rfl, evalAll_authArguments sees (by simp [guarded])⟩
          rw [runAll_guardCode_require sees, if_pos set]

/-- If the guard of a call passes, its function sends one request, with the values of
the header arguments. -/
theorem runAll_functionCode_of_passed (names : SdkNames) (listening : Bool)
    {header : Option AuthHeader}
    (passed : call.authorize settings request = .ok header) :
    ∃ after, runAll (functionCode names call)
      (.entry names settings request listening) = (after, .next) ∧
      after.sent = [.ofCall names call settings (call.prepare settings request)
        (call.headerValues settings).1 (call.headerValues settings).2] := by
  obtain ⟨guarded, ran, sees, quiet, evaluated⟩ :=
    runAll_guard_of_passed names listening passed
  have sent := run_sendCode sees evaluated
  rw [quiet, List.nil_append] at sent
  have whole := runAll_append_of_next _ [sendCode names call] ran
  rw [runAll_singleton, sent] at whole
  exact ⟨_, whole, rfl⟩

/-! ## Agreement -/

/-- The name and the value of a header as they should be sent: those of the header, or
empty texts without one, and never a name without a value. -/
structure SendsHeader (header : Option AuthHeader) (name value : String) : Prop where
  same : ∀ sent, header = some sent → name = sent.name ∧ value = sent.value
  empty_iff : name = "" ∧ value = "" ↔ header = none
  nonempty : name ≠ "" → value ≠ ""

theorem sendsHeader_none : SendsHeader none "" "" :=
  ⟨by simp, by simp, by simp⟩

theorem sendsHeader_of {credential : Credential} {value : String}
    (present : settings.credential? credential = some value) :
    SendsHeader (some (.of credential value)) credential.header value where
  same := by
    rintro sent ⟨⟩
    exact ⟨rfl, rfl⟩
  empty_iff := by simp [credential.header_ne_empty]
  nonempty _ := (Settings.present_eq_some_iff.mp present).2

theorem not_sendsHeader_none (credential : Credential) (value : String) :
    ¬ SendsHeader none credential.header value := by
  intro sends
  exact credential.header_ne_empty (sends.empty_iff.mpr rfl).1

theorem credential?_of_best? {credential : Credential} {value : String}
    (best : settings.best? = some (credential, value)) :
    settings.credential? credential = some value := by
  obtain ⟨other, _, found⟩ := List.exists_of_findSome?_eq_some best
  cases present : settings.credential? other with
  | none => simp [present] at found
  | some text =>
      simp only [present, Option.map_some, Option.some.injEq, Prod.mk.injEq] at found
      obtain ⟨rfl, rfl⟩ := found
      exact present

theorem sendsHeader_headerValues_iff {header : Option AuthHeader}
    (passed : call.authorize settings request = .ok header) :
    SendsHeader header (call.headerValues settings).1 (call.headerValues settings).2 ↔
      ¬ (call.guard? = some .titleId ∧ call.auth ≠ .anonymous) := by
  unfold ApiCall.authorize at passed
  unfold ApiCall.headerValues
  cases guarded : call.guard? with
  | none =>
      obtain rfl : none = header := by simpa [guarded] using passed
      simp [ApiCall.credential?_of_guard? none guarded, sendsHeader_none]
  | some guard =>
      simp only [guarded] at passed
      cases guard with
      | titleId =>
          have without : header = none := by
            simp only [Guard.check, Guard.decide] at passed
            split at passed
            · exact (Except.ok.inj passed).symm
            · cases passed
          subst without
          cases declared : call.auth.credential? with
          | none => simp [ApiCall.credential?_isNone_iff.mp declared, sendsHeader_none]
          | some credential =>
              have named : call.auth ≠ .anonymous := by
                intro anonymous
                simp [ApiCall.credential?_isNone_iff.mpr anonymous] at declared
              simp [named, not_sendsHeader_none]
      | selectCredential =>
          obtain rfl := Except.ok.inj passed
          cases best : settings.best? with
          | none => simp [sendsHeader_none]
          | some choice => simp [sendsHeader_of (credential?_of_best? best)]
      | require credential =>
          simp only [Guard.check, Guard.decide, Guard.prepare] at passed
          cases present : settings.credential? credential with
          | none => simp [present] at passed
          | some value =>
              have stored : (settings.stored credential).getD "" = value :=
                Settings.getD_of_present present
              obtain rfl : some (AuthHeader.of credential value) = header := by
                simpa [present] using passed
              simp [ApiCall.credential?_of_guard? (some credential) guarded, stored,
                sendsHeader_of present]

/-- A call whose guard passes sends the header that the guard gave, exactly if it is no
login or registration that declares a credential. -/
theorem sends_header_iff (call : ApiCall) (names : SdkNames) (settings : Settings)
    (request : Request) (listening : Bool) {header : Option AuthHeader}
    (passed : call.authorize settings request = .ok header) :
    ∃ name value after,
      runAll (functionCode names call) (.entry names settings request listening) =
        (after, .next) ∧
      after.sent =
        [.ofCall names call settings (call.prepare settings request) name value] ∧
      (SendsHeader header name value ↔
        ¬ (call.guard? = some .titleId ∧ call.auth ≠ .anonymous)) := by
  obtain ⟨after, ran, sent⟩ := runAll_functionCode_of_passed names listening passed
  exact ⟨_, _, after, ran, sent, sendsHeader_headerValues_iff passed⟩

/-- A login that declares the secret key, as game servers make it. -/
def serverLogin : ApiCall where
  name := "LoginWithServerCustomId"
  url := "/Server/LoginWithServerCustomId"
  request := none
  result := some "LoginResult"
  auth := .secretKey
  summary := none
  deprecation := none

theorem sends_header_iff_serverLogin :
    serverLogin.authorize ⟨some "A1B2", none, none, none⟩ .empty = .ok none ∧
      ∃ name value after,
        runAll (functionCode .standard serverLogin)
            (.entry .standard ⟨some "A1B2", none, none, none⟩ .empty true) =
              (after, .next) ∧
        after.sent = [.ofCall .standard serverLogin ⟨some "A1B2", none, none, none⟩
          (serverLogin.prepare ⟨some "A1B2", none, none, none⟩ .empty) name value] ∧
        ¬ SendsHeader none name value := by
  have passed : serverLogin.authorize ⟨some "A1B2", none, none, none⟩ .empty =
      .ok none := rfl
  obtain ⟨name, value, after, ran, sent, sends⟩ :=
    sends_header_iff serverLogin .standard _ _ true passed
  refine ⟨passed, name, value, after, ran, sent, fun given => ?_⟩
  exact sends.mp given ⟨rfl, by decide⟩

/-- Its guard gives no header, but without a secret key it sends the name of that header
with an empty value. -/
theorem serverLogin_sends_name_without_value :
    serverLogin.authorize ⟨some "A1B2", none, none, none⟩ .empty = .ok none ∧
      (∃ after,
        runAll (functionCode .standard serverLogin)
            (.entry .standard ⟨some "A1B2", none, none, none⟩ .empty true) =
              (after, .next) ∧
        after.sent = [.ofCall .standard serverLogin ⟨some "A1B2", none, none, none⟩
          (serverLogin.prepare ⟨some "A1B2", none, none, none⟩ .empty)
            "X-SecretKey" ""]) ∧
      ¬ SendsHeader none "X-SecretKey" "" :=
  ⟨rfl, runAll_functionCode_of_passed .standard true rfl,
    not_sendsHeader_none .secretKey ""⟩

end Script

end GodotSdk
