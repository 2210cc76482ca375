import GodotSdk.Proofs.Session.Objects

/-!
# Guards as printed

What the statements of a guard do when they run. The title id is filled in before it is
tested, a missing credential is logged and reported before the function returns, and the
strongest credential is found by trying all of them in order.
-/

namespace GodotSdk

namespace SdkNames

variable (names : SdkNames) {name : String}

theorem errorReference_ne (last : name.toList.getLast? ≠ some 'r') :
    names.errorReference ≠ name := by
  intro equal
  apply last
  rw [← equal]
  simp [errorReference, errorsClass, errorClass, List.getLast?_cons]

theorem httpClass_ne (last : name.toList.getLast? ≠ some 'p') :
    names.httpClass ≠ name := by
  intro equal
  apply last
  rw [← equal]
  simp [httpClass]

end SdkNames

namespace Script

namespace State

/-- What generated functions rely on: their parameters, and the classes of errors and of
the HTTP layer. -/
structure Sees (state : State) (names : SdkNames) (settings : Settings)
    (request : Request) (listening : Bool) : Prop where
  settings : state.locals.lookup "settings" = some (.ofSettings settings)
  request : state.locals.lookup "request" = some (.ofRequest request)
  callback : state.locals.lookup "callback" = some (.callable listening)
  errorClass : state.get? names.errorReference = some (.type names.errorReference)
  httpClass : state.get? names.httpClass = some (.type names.httpClass)

theorem sees_entry (names : SdkNames) (settings : Settings) (request : Request)
    (listening : Bool) :
    (entry names settings request listening).Sees names settings request listening where
  settings := by simp [entry]
  request := by simp [entry, lookup_entry]
  callback := by simp [entry, lookup_entry]
  errorClass := by
    simp [entry, get?, lookup_entry, names.errorReference_ne]
  httpClass := by
    simp [entry, get?, lookup_entry, names.httpClass_ne]

variable {state : State} {names : SdkNames} {settings : Settings} {request : Request}
  {listening : Bool}

theorem get?_assign_of_ne {name other : String} (different : other ≠ name)
    (value : Value) :
    (state.assign name value).get? other = state.get? other := by
  have looked := lookup_assign state name value other
  rw [if_neg different] at looked
  rw [get?, get?, looked]
  rfl

theorem Sees.assign_request (sees : state.Sees names settings request listening)
    (changed : Request) :
    (state.assign "request" (.ofRequest changed)).Sees names settings changed
      listening where
  settings := by simp [lookup_assign, sees.settings]
  request := by simp [lookup_assign]
  callback := by simp [lookup_assign, sees.callback]
  errorClass := by
    rw [get?_assign_of_ne (names.errorReference_ne (by simp))]
    exact sees.errorClass
  httpClass := by
    rw [get?_assign_of_ne (names.httpClass_ne (by simp))]
    exact sees.httpClass

/-- The state after the failure of a guard was logged and reported. -/
def fail (state : State) (names : SdkNames) (guard : Guard)
    (listening : Bool) : State :=
  { state with
    logged := state.logged ++ guard.failureLog?.toList.map .string
    notified := state.notified ++
      if listening then guard.failure?.toList.map fun error =>
        [.null, .ofError names error] else [] }

@[simp] theorem leave_fail (names : SdkNames) (guard : Guard) (listening : Bool) :
    (state.fail names guard listening).leave state =
      state.fail names guard listening := by
  simp [leave, fail]

section Expressions

variable (sees : state.Sees names settings request listening)
include sees

theorem eval_storedTitleId :
    state.eval storedTitleId = some (.string (settings.titleId.getD "")) := by
  simp [storedTitleId, Script.settings, eval, get?_of_local sees.settings]

theorem eval_storedCredential (credential : Credential) :
    state.eval (storedCredential credential) =
      some (.string ((settings.stored credential).getD "")) := by
  simp [storedCredential, Script.settings, eval, get?_of_local sees.settings]

theorem eval_requestTitleId :
    state.eval requestTitleId = (request.get? titleIdKey).map Value.ofJson := by
  simp [requestTitleId, Script.request, eval, get?_of_local sees.request]

theorem eval_lacksTitleId :
    state.eval (.not (.invoke Script.request "has" [.text titleIdKey])) =
      some (.bool !(request.get? titleIdKey).isSome) := by
  simp [Script.request, eval, evalAll, get?_of_local sees.request]

theorem store_requestTitleId (value : Json.Value) :
    state.store requestTitleId (.ofJson value) =
      some (state.assign "request" (.ofRequest (request.insert titleIdKey value))) := by
  rw [requestTitleId, Script.request, store_index sees.request (by simp [eval]; rfl)]
  simp

end Expressions

end State

namespace Statement

open State

variable {state : State} {names : SdkNames} {settings : Settings} {request : Request}
  {listening : Bool}

/-! ## Failures -/

section Failures

variable (sees : state.Sees names settings request listening)
include sees

theorem eval_errorObject (error : CallError) :
    state.eval (errorObject names error) = some (.ofError names error) := by
  simp [errorObject, eval, evalAll, evalEntries, sees.errorClass, Value.method?,
    Value.ofError]

theorem run_notify_error (error : CallError) :
    (notify .null (errorObject names error)).run state =
      ({ state with
          notified := state.notified ++ if listening then
            [[.null, .ofError names error]] else [] },
        .next) := by
  have valid : state.eval (.invoke callback "is_valid" []) =
      some (.bool listening) := by
    simp [callback, eval, evalAll, get?_of_local sees.callback, Value.method?]
  rw [notify, run_when valid]
  cases listening with
  | false => simp
  | true =>
      simp [runAll, run, proceed, State.perform, callback, eval, evalAll,
        get?_of_local sees.callback, eval_errorObject sees, State.leave]

theorem runAll_failure (guard : Guard) :
    runAll (failure names guard) state = (state.fail names guard listening, .left) := by
  let logged : State :=
    { state with logged := state.logged ++ guard.failureLog?.toList.map .string }
  have seesLogged : logged.Sees names settings request listening :=
    ⟨sees.settings, sees.request, sees.callback, sees.errorClass, sees.httpClass⟩
  rw [failure, List.append_assoc]
  refine (runAll_append_of_next logged _ ?log).trans ?report
  case log =>
    cases message : guard.failureLog? <;>
      simp [logged, message, runAll, run, proceed, State.call, eval, evalAll]
  case report =>
    refine (runAll_append_of_next (state.fail names guard listening) _ ?_).trans ?_
    · cases failed : guard.failure? with
      | none => simp [runAll, fail, logged, failed]
      | some error =>
          simp only [runAll_singleton, run_notify_error seesLogged error]
          simp [fail, logged, failed]
    · simp [runAll, run]

/-- A guard that tests one condition and fails if it does not hold. -/
theorem run_when_not_failure (guard : Guard) {condition : Expr} {value : Value}
    (evaluated : state.eval condition = some value) :
    (Statement.when (.not condition) (failure names guard)).run state =
      if value.truthy then (state, .next)
        else (state.fail names guard listening, .left) := by
  have negated : state.eval (.not condition) = some (.bool !value.truthy) := by
    simp [eval, evaluated]
  rw [run_when negated, runAll_failure sees guard]
  cases value.truthy <;> simp

end Failures

/-! ## The title id -/

section TitleId

variable (sees : state.Sees names settings request listening)
include sees

/-- Filling in the title id leaves the request that the guard prepares, and changes
nothing else. -/
theorem run_fillTitleId :
    (Statement.choose [
      (storedTitleId, [.assign requestTitleId storedTitleId]),
      (.not (.invoke Script.request "has" [.text titleIdKey]),
        [.assign requestTitleId (.text "")])]).run state =
      (state.assign "request" (.ofRequest (Guard.withTitleId settings request)),
        .next) := by
  rw [run, runBranches_cons (eval_storedTitleId sees),
    runBranches_cons (eval_lacksTitleId sees), runBranches, Value.truthy_getD]
  have filled (text : String) {value : Expr} (evaluated : state.eval value =
      some (.string text)) :
      runAll [.assign requestTitleId value] state =
        (state.assign "request" (.ofRequest (request.insert titleIdKey (.string text))),
          .next) := by
    rw [runAll_singleton, run, evaluated, Option.bind_some, show Value.string text =
      .ofJson (.string text) from rfl, store_requestTitleId sees]
    rfl
  cases present : settings.presentTitleId with
  | some text =>
      have stored := eval_storedTitleId sees
      rw [Settings.getD_of_present present] at stored
      have set : (Settings.present settings.titleId).isSome = true := by
        rw [← Settings.presentTitleId, present]
        rfl
      rw [if_pos set, filled text stored, leave_assign sees.request]
      simp [Guard.withTitleId, present]
  | none =>
      have unset : ¬ (Settings.present settings.titleId).isSome = true := by
        rw [← Settings.presentTitleId, present]
        simp
      rw [if_neg unset]
      cases own : request.get? titleIdKey with
      | some value =>
          simp [Guard.withTitleId, present, own, assign_of_lookup sees.request]
      | none =>
          rw [filled "" (by simp [eval]), leave_assign sees.request]
          simp [Guard.withTitleId, present, own]

theorem runAll_guardCode_titleId {value : Json.Value}
    (own : (Guard.withTitleId settings request).get? titleIdKey = some value) :
    runAll (guardCode names .titleId) state =
      let filled :=
  state.assign "request" (.ofRequest (Guard.withTitleId settings request))
      if (Value.ofJson value).truthy then (filled, .next)
      else (filled.fail names .titleId listening, .left) := by
  have seesFilled := sees.assign_request (Guard.withTitleId settings request)
  have evaluated := eval_requestTitleId seesFilled
  rw [own, Option.map_some] at evaluated
  rw [guardCode, runAll_cons_of_next (run_fillTitleId sees), runAll_singleton,
    run_when_not_failure seesFilled .titleId evaluated]

end TitleId

/-! ## Credentials -/

section Credentials

variable (sees : state.Sees names settings request listening)
include sees

theorem runAll_guardCode_require (credential : Credential) :
    runAll (guardCode names (.require credential)) state =
      if (settings.credential? credential).isSome then (state, .next)
      else (state.fail names (.require credential) listening, .left) := by
  rw [guardCode, runAll_singleton, run_when_not_failure sees (.require credential)
    (eval_storedCredential sees credential), Value.truthy_getD, ← Settings.credential?]

end Credentials

end Statement

namespace State

/-- The state with the variables for a header and its value. -/
def withHeader (state : State) (name value : String) : State :=
  { state with locals := ("auth_value", .string value) :: ("auth_key",
    .string name) :: state.locals }

variable {state : State} {names : SdkNames} {settings : Settings} {request : Request}
  {listening : Bool}

theorem get?_withHeader_of_ne {other : String} (notKey : other ≠ "auth_key")
    (notValue : other ≠ "auth_value") (name value : String) :
    (state.withHeader name value).get? other = state.get? other := by
  have looked : (state.withHeader name value).locals.lookup other =
      state.locals.lookup other := by
    simp [withHeader, lookup_entry, notKey, notValue]
  rw [get?, get?, looked]
  rfl

theorem Sees.withHeader (sees : state.Sees names settings request listening)
    (name value : String) :
    (state.withHeader name value).Sees names settings request listening where
  settings := by simp [State.withHeader, lookup_entry, sees.settings]
  request := by simp [State.withHeader, lookup_entry, sees.request]
  callback := by simp [State.withHeader, lookup_entry, sees.callback]
  errorClass := by
    rw [get?_withHeader_of_ne (names.errorReference_ne (by simp))
      (names.errorReference_ne (by simp))]
    exact sees.errorClass
  httpClass := by
    rw [get?_withHeader_of_ne (names.httpClass_ne (by simp))
      (names.httpClass_ne (by simp))]
    exact sees.httpClass

@[simp] theorem leave_withHeader (name value otherName otherValue : String) :
    (state.withHeader name value).leave (state.withHeader otherName otherValue) =
      state.withHeader name value := by
  simp [leave, withHeader]

end State

namespace Statement

open State

variable {state : State} {names : SdkNames} {settings : Settings} {request : Request}
  {listening : Bool}

/-- What a branch does that selects a credential. -/
theorem runAll_selection (sees : state.Sees names settings request listening)
    (credential : Credential) :
    runAll [
      .assign authKey (.text credential.header),
      .assign authValue (storedCredential credential)] (state.withHeader "" "") =
      (state.withHeader credential.header ((settings.stored credential).getD ""),
        .next) := by
  have key : (Statement.assign authKey (.text credential.header)).run
      (state.withHeader "" "") = (state.withHeader credential.header "", .next) := by
    simp [run, proceed, authKey, eval, store, set?, State.withHeader,
      lookup_entry, putEntry]
  have stored := eval_storedCredential (sees.withHeader credential.header "") credential
  rw [runAll_cons_of_next key, runAll_singleton, run, stored]
  simp [proceed, authValue, store, set?, State.withHeader, putEntry]

/-- Of credentials that are tried in order, the first that is set gives the header. -/
theorem runBranches_selection (sees : state.Sees names settings request listening)
    (credentials : List Credential) :
    runBranches (credentials.map fun credential => (storedCredential credential, [
        .assign authKey (.text credential.header),
        .assign authValue (storedCredential credential)])) (state.withHeader "" "") =
      match credentials.findSome? fun credential =>
          (settings.credential? credential).map (credential, ·) with
      | some (credential, value) => (state.withHeader credential.header value, .next)
      | none => (state.withHeader "" "", .next) := by
  induction credentials with
  | nil => rfl
  | cons credential rest ih =>
      rw [List.map_cons,
        runBranches_cons (eval_storedCredential (sees.withHeader "" "") credential),
        Value.truthy_getD, ← Settings.credential?, List.findSome?_cons]
      cases present : settings.credential? credential with
      | none => simpa using ih
      | some value =>
          have stored : (settings.stored credential).getD "" = value :=
            Settings.getD_of_present present
          simp [runAll_selection sees, stored]

theorem runAll_guardCode_selectCredential
    (sees : state.Sees names settings request listening) :
    runAll (guardCode names .selectCredential) state =
      match settings.best? with
      | some (credential, value) => (state.withHeader credential.header value, .next)
      | none => (state.withHeader "" "", .next) := by
  have key : (Statement.declare "auth_key" (.text "")).run state =
      ({ state with locals := ("auth_key", .string "") :: state.locals }, .next) := by
    simp [run, proceed, eval]
  have value : (Statement.declare "auth_value" (.text "")).run
      { state with locals := ("auth_key", .string "") :: state.locals } =
      (state.withHeader "" "", .next) := by
    simp [run, proceed, eval, State.withHeader]
  rw [guardCode, runAll_cons_of_next key, runAll_cons_of_next value, runAll_singleton,
    run, runBranches_selection sees]
  rfl

end Statement

end Script

end GodotSdk
