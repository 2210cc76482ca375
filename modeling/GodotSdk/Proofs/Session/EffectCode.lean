import GodotSdk.Proofs.Session.Objects

/-!
# Effects as printed

What the statements do that store credentials from a response. They ask for each key of
a path but not for the kind of what they find, so they store what the effects of the
call store if every key is looked up in an object and the last of them holds a text, and
they are refused otherwise.
-/

namespace GodotSdk

namespace Json.Value

/-- What the keys of a path lead to, which is nothing if one of them is missing. There
is no result if a key is looked up in anything but an object. -/
def follow? : List String → Value → Option (Option Value)
  | [], value => some (some value)
  | key :: rest, .object members =>
      match members.lookup key with
      | some value => follow? rest value
      | none => some none
  | _ :: _, _ => none

theorem foldlM_get? (path : List String) (value : Value) :
    path.foldlM get? value = (follow? path value).join := by
  induction path generalizing value with
  | nil => rfl
  | cons key rest ih =>
      rw [List.foldlM_cons]
      cases value with
      | object members =>
          simp only [get?, follow?]
          cases members.lookup key with
          | none => rfl
          | some inner => exact ih inner
      | _ => rfl

end Json.Value

theorem Effect.extract?_eq (effect : Effect) (response : Json.Value) :
    effect.extract? response =
      (response.follow? effect.path).join.bind fun value =>
        value.text?.map (⟨effect.credential, ·⟩) := by
  rw [extract?, Json.Value.foldlM_get?]
  cases (response.follow? effect.path).join with
  | none => rfl
  | some value => cases isText : value.text? <;> simp [isText]

/-- The path of an effect leads through objects to a text, or ends at a missing key
before. -/
def Effect.Fits (effect : Effect) (response : Json.Value) : Prop :=
  ∃ found, response.follow? effect.path = some found ∧ ∀ value ∈ found,
    value.text?.isSome = true

/-- If the response to a call counts as anything, it fits the effects of the call. -/
def ApiCall.Fits (call : ApiCall) (response : Json.Value) : Prop :=
  (Script.Value.ofJson response).truthy = true →
    ∀ effect ∈ call.effects, effect.Fits response

namespace Script

namespace Value

/-- The fields of the settings take texts only. -/
theorem setField?_ofSettings_of_no_text {value : Json.Value}
    (noText : value.text? = none) (settings : Settings) (label : String) :
    (ofSettings settings).setField? label (ofJson value) = none := by
  cases value with
  | string text => simp [Json.Value.text?] at noText
  | _ => rfl

theorem index?_ofJson (value : Json.Value) (key : String) :
    (ofJson value).index? (.string key) = (value.get? key).map ofJson := by
  cases value with
  | object members => exact lookup_ofMembers members key
  | _ => rfl

end Value

namespace State

variable {state : State} {response : Json.Value} {settings : Settings}

/-! ## Paths -/

/-- Indexing by the keys of a path gives what the path leads to, wherever it begins. -/
theorem eval_indexed (path : List String) {base : Expr} {start : Option Json.Value}
    (evaluated : state.eval base = start.map .ofJson) :
    state.eval (path.foldl (fun value key => .index value (.text key)) base) =
      (start.bind (path.foldlM Json.Value.get?)).map .ofJson := by
  induction path generalizing base start with
  | nil => cases start <;> simpa using evaluated
  | cons key rest ih =>
      have indexed : state.eval (.index base (.text key)) =
          (start.bind (·.get? key)).map .ofJson := by
        cases start <;> simp [eval, evaluated, Value.index?_ofJson]
      rw [List.foldl_cons, ih indexed]
      cases start <;> rfl

/-- Whether all of several tests hold, of which those after the first failure are not
made. -/
def holdAll (state : State) : List Expr → Option Bool
  | [] => some true
  | test :: rest => do
      if (← state.eval test).truthy then state.holdAll rest else return false

theorem eval_conjunction (test : Expr) (rest : List Expr) :
    (state.eval (conjunction (test :: rest))).map Value.truthy =
      state.holdAll (test :: rest) := by
  simp only [conjunction]
  induction rest generalizing test with
  | nil =>
      cases evaluated : state.eval test with
      | none => simp [holdAll, evaluated]
      | some value => cases true? : value.truthy <;> simp [holdAll, evaluated, true?]
  | cons second rest ih =>
      rw [List.foldl_cons, ih (.and test second)]
      simp only [holdAll, eval]
      cases state.eval test with
      | none => rfl
      | some first =>
          cases firstTrue : first.truthy with
          | false => simp [firstTrue]
          | true =>
              cases state.eval second with
              | none => simp [firstTrue]
              | some value =>
                  cases secondTrue : value.truthy <;> simp [firstTrue, secondTrue]

/-- The tests for the keys of a path hold if the path leads to something, and fault
where it has no result. -/
theorem holdAll_pathTests (before path : List String) {start : Json.Value}
    (evaluated : state.eval (responseAt before) = some (.ofJson start)) :
    state.holdAll (pathTests before path) = (start.follow? path).map Option.isSome := by
  induction path generalizing before start with
  | nil => rfl
  | cons key rest ih =>
      cases start with
      | object members =>
          have tested : state.eval (.invoke (responseAt before) "has" [.text key]) =
              some (.bool (members.lookup key).isSome) := by
            simp [eval, evalAll, evaluated, Value.ofJson, Value.method?,
              Value.lookup_ofMembers]
          have next : state.eval (responseAt (before ++ [key])) =
              (members.lookup key).map .ofJson := by
            simp only [responseAt, List.foldl_append, List.foldl_cons, List.foldl_nil]
              at evaluated ⊢
            simp [eval, evaluated, Value.index?_ofJson, Json.Value.get?]
          simp only [pathTests, holdAll, tested, Json.Value.follow?]
          cases found : members.lookup key with
          | none => rfl
          | some inner =>
              rw [found, Option.map_some] at next
              exact ih (before ++ [key]) next
      | _ => simp [pathTests, holdAll, eval, evalAll, evaluated, Value.ofJson,
          Value.method?, Json.Value.follow?]

end State

/-! ## Effects -/

/-- What the statements of effects rely on: the response, and the settings. -/
structure State.Responds (state : State) (response : Json.Value) (settings : Settings) :
    Prop where
  response : state.locals.lookup responseName = some (.ofJson response)
  settings : state.locals.lookup "settings" = some (.ofSettings settings)

variable {state : State} {response : Json.Value} {settings : Settings}

theorem State.responds_receive (names : SdkNames) (settings : Settings)
    (request : Request) (listening : Bool) (response : Json.Value) :
    ((State.entry names settings request listening).receive response).Responds response
      settings where
  response := by simp [receive]
  settings := by simp [receive, entry, lookup_entry, responseName]

theorem State.Responds.assign (responds : state.Responds response settings)
    (changed : Settings) :
    (state.assign "settings" (.ofSettings changed)).Responds response changed where
  response := by
    rw [lookup_assign, if_neg (by simp [responseName])]
    exact responds.response
  settings := by simp [lookup_assign]

namespace Statement

open State

/-- The settings after one effect. -/
def afterEffect (response : Json.Value) (settings : Settings) (effect : Effect) :
    Settings :=
  match effect.extract? response with
  | some change => settings.persist change
  | none => settings

section Effects

variable (responds : state.Responds response settings)
include responds

theorem eval_responseAt (path : List String) :
    state.eval (responseAt path) = (response.follow? path).join.map .ofJson := by
  have start : state.eval (.variable responseName) = (some response).map .ofJson := by
    simp [eval, get?_of_local responds.response]
  rw [responseAt, eval_indexed path start, Option.bind_some, Json.Value.foldlM_get?]

theorem eval_tests (effect : Effect) :
    (state.eval (conjunction (pathTests [] effect.path))).map Value.truthy =
      (response.follow? effect.path).map Option.isSome := by
  have start : state.eval (responseAt []) = some (.ofJson response) := by
    simp [responseAt, eval, get?_of_local responds.response]
  rw [← holdAll_pathTests [] effect.path start]
  cases effect <;> exact eval_conjunction _ _

/-- The test of an effect comes out as its path does. -/
theorem exists_tested (effect : Effect) {found : Option Json.Value}
    (followed : response.follow? effect.path = some found) :
    ∃ value, state.eval (conjunction (pathTests [] effect.path)) = some value ∧
      value.truthy = found.isSome := by
  have tests := eval_tests responds effect
  rw [followed, Option.map_some] at tests
  exact Option.map_eq_some_iff.mp tests

theorem run_effectCode_of_fits {effect : Effect} (fits : effect.Fits response) :
    (effectCode effect).run state =
      (state.assign "settings" (.ofSettings (afterEffect response settings effect)),
        .next) := by
  obtain ⟨found, followed, isText⟩ := fits
  obtain ⟨tested, evaluated, holds⟩ := exists_tested responds effect followed
  have extracted := effect.extract?_eq response
  have located := eval_responseAt responds effect.path
  rw [followed] at extracted located
  rw [effectCode, run_when evaluated, holds]
  cases found with
  | none => simp [afterEffect, extracted, assign_of_lookup responds.settings]
  | some value =>
      obtain ⟨text, isString⟩ := Option.isSome_iff_exists.mp (isText value rfl)
      obtain rfl : value = .string text := by
        cases value <;> simp_all [Json.Value.text?]
      have stored :
          (Statement.assign (storedCredential effect.credential)
            (responseAt effect.path)).run
          state = (state.assign "settings"
            (.ofSettings (settings.persist ⟨effect.credential, text⟩)), .next) := by
        rw [run, located, storedCredential, Script.settings]
        simp [store_field responds.settings, Value.ofJson, proceed]
      rw [if_pos (by simp), runAll_singleton, stored, leave_assign responds.settings]
      simp [afterEffect, extracted, Json.Value.text?]

theorem run_effectCode_of_not_fits {effect : Effect} (unfit : ¬ effect.Fits response) :
    (effectCode effect).run state = (state, .fault) := by
  cases followed : response.follow? effect.path with
  | none =>
      have tests := eval_tests responds effect
      rw [followed, Option.map_none, Option.map_eq_none_iff] at tests
      simp [effectCode, Statement.when, run, runBranches, tests]
  | some found =>
      obtain ⟨tested, evaluated, holds⟩ := exists_tested responds effect followed
      cases found with
      | none => exact absurd ⟨none, followed, by simp⟩ unfit
      | some value =>
          have noText : value.text? = none := by
            cases isText : value.text? with
            | none => rfl
            | some text => exact absurd ⟨some value, followed, by simp [isText]⟩ unfit
          have located := eval_responseAt responds effect.path
          rw [followed] at located
          have refused : (Statement.assign (storedCredential effect.credential)
              (responseAt effect.path)).run state = (state, .fault) := by
            rw [run, located, storedCredential, Script.settings]
            simp [store_field responds.settings,
              Value.setField?_ofSettings_of_no_text noText, proceed]
          rw [effectCode, run_when evaluated, holds, if_pos (by simp),
            runAll_singleton, refused]
          simp

end Effects

/-- Effects that fit are carried out one after the other. -/
theorem runAll_effects_of_fits (effects : List Effect)
    (responds : state.Responds response settings)
    (fit : ∀ effect ∈ effects, effect.Fits response) :
    runAll (effects.map effectCode) state =
      (state.assign "settings"
        (.ofSettings (effects.foldl (afterEffect response) settings)), .next) := by
  induction effects generalizing state settings with
  | nil => simp [runAll, assign_of_lookup responds.settings]
  | cons effect rest ih =>
      have first := run_effectCode_of_fits responds (fit effect (by simp))
      have others : ∀ other ∈ rest, other.Fits response :=
        fun other member => fit other (by simp [member])
      rw [List.map_cons, runAll_cons_of_next first, ih (responds.assign _) others,
        assign_assign, List.foldl_cons]

/-- If one of several effects does not fit, the first such effect is refused. -/
theorem runAll_effects_of_not_fits (effects : List Effect)
    (responds : state.Responds response settings)
    (unfit : ¬ ∀ effect ∈ effects, effect.Fits response) :
    (runAll (effects.map effectCode) state).2 = .fault := by
  induction effects generalizing state settings with
  | nil => simp at unfit
  | cons effect rest ih =>
      rw [List.map_cons]
      by_cases fits : effect.Fits response
      · rw [runAll_cons_of_next (run_effectCode_of_fits responds fits)]
        apply ih (responds.assign _)
        intro others
        exact unfit (by simpa [fits] using others)
      · simp [runAll, run_effectCode_of_not_fits responds fits]

/-! ## Agreement -/

theorem foldl_afterEffect (effects : List Effect) (response : Json.Value)
    (settings : Settings) :
    effects.foldl (afterEffect response) settings =
      (effects.filterMap (·.extract? response)).foldl Settings.persist settings := by
  induction effects generalizing settings with
  | nil => rfl
  | cons effect rest ih =>
      rw [List.foldl_cons, ih, List.filterMap_cons]
      cases extracted : effect.extract? response <;> simp [afterEffect, extracted]

/-- Nothing is stored from a response that counts as nothing. -/
theorem respond_of_not_truthy (call : ApiCall) (settings : Settings)
    (falsy : (Value.ofJson response).truthy = false) :
    call.respond response settings = settings := by
  have absent (key : String) : response.get? key = none := by
    cases response with
    | object members =>
        cases members <;>
          simp_all [Value.ofJson, Value.ofMembers, Value.truthy, Json.Value.get?]
    | _ => rfl
  have nothing (effect : Effect) : effect.extract? response = none := by
    cases effect <;> simp [Effect.extract?, Effect.path, absent]
  have none : call.effects.filterMap (·.extract? response) = [] :=
    List.filterMap_eq_nil_iff.mpr fun effect _ => nothing effect
  rw [ApiCall.respond, ApiCall.persists, none, List.foldl_nil]

section Calls

variable (call : ApiCall) (responds : state.Responds response settings)
include responds

/-- The statements for the effects of a call run exactly if the response counts as
true. -/
theorem runAll_effectsCode :
    runAll (effectsCode call.effects) state =
      if (Value.ofJson response).truthy then
        ((runAll (call.effects.map effectCode) state).1.leave state,
          (runAll (call.effects.map effectCode) state).2)
      else (state, .next) := by
  have evaluated : state.eval (.variable responseName) = some (.ofJson response) := by
    simp [eval, get?_of_local responds.response]
  cases effects : call.effects with
  | nil => simp [effectsCode, runAll]
  | cons effect rest =>
      have code : effectsCode (effect :: rest) =
          [.when (.variable responseName) ((effect :: rest).map effectCode)] := by
        simp [effectsCode]
      rw [code, runAll_singleton, run_when evaluated]

theorem runAll_effectsCode_of_fits (fits : call.Fits response) :
    runAll (effectsCode call.effects) state =
      (state.assign "settings" (.ofSettings (call.respond response settings)),
        .next) := by
  rw [runAll_effectsCode call responds]
  cases truthy : (Value.ofJson response).truthy with
  | false => simp [respond_of_not_truthy call settings truthy,
      assign_of_lookup responds.settings]
  | true =>
      rw [runAll_effects_of_fits call.effects responds (fits truthy),
        leave_assign responds.settings, foldl_afterEffect, ApiCall.respond,
        ApiCall.persists, if_pos rfl]

theorem runAll_effectsCode_of_not_fits (unfit : ¬ call.Fits response) :
    (runAll (effectsCode call.effects) state).2 = .fault := by
  obtain ⟨truthy, unfit⟩ := Classical.not_imp.mp unfit
  rw [runAll_effectsCode call responds, if_pos truthy]
  exact runAll_effects_of_not_fits call.effects responds unfit

end Calls

/-- The statements that store credentials from the response to a call leave the settings
that the response leaves, and change nothing else, if the response fits the effects of
the call. Otherwise the language refuses them. -/
theorem runAll_effectsCode_of_responds (call : ApiCall) {state : State}
    {response : Json.Value} {settings : Settings}
    (responds : state.Responds response settings) :
    (call.Fits response →
      runAll (effectsCode call.effects) state =
        (state.assign "settings"
          (.ofSettings (call.respond response settings)), .next)) ∧
    (¬ call.Fits response → (runAll (effectsCode call.effects) state).2 = .fault) :=
  ⟨runAll_effectsCode_of_fits call responds,
    runAll_effectsCode_of_not_fits call responds⟩

/-- A login without any credential to authenticate with. -/
def login : ApiCall where
  name := "LoginWithCustomID"
  url := "/Client/LoginWithCustomID"
  request := none
  result := some "LoginResult"
  auth := .anonymous
  summary := none
  deprecation := none

/-- The response to a login with both credentials that it may carry. -/
def loginResponse : Json.Value :=
  .object [("SessionTicket", .string "ticket"),
    ("EntityToken", .object [("EntityToken", .string "token")])]

/-- A response to a login whose entity token is not in an object of its own. -/
def flatResponse : Json.Value :=
  .object [("SessionTicket", .string "ticket"), ("EntityToken", .string "token")]

theorem runAll_effectsCode_of_responds_login :
    login.Fits loginResponse ∧
      runAll (effectsCode login.effects)
          ((State.entry .standard ⟨none, none, none, none⟩ .empty true).receive
            loginResponse) =
        (((State.entry .standard ⟨none, none, none, none⟩ .empty true).receive
          loginResponse).assign
          "settings" (.ofSettings
            (login.respond loginResponse ⟨none, none, none, none⟩)), .next) := by
  have fits : login.Fits loginResponse := by
    intro _ effect member
    obtain rfl | rfl : effect = .persistSessionTicket ∨
        effect = .persistNestedEntityToken := by
      simpa [login, ApiCall.effects, ApiCall.resultRole?, ResultRole.effects]
        using member
    · exact ⟨some (.string "ticket"), rfl, by simp [Json.Value.text?]⟩
    · exact ⟨some (.string "token"), rfl, by simp [Json.Value.text?]⟩
  exact ⟨fits,
    (runAll_effectsCode_of_responds login (State.responds_receive ..)).1 fits⟩

/-- From a flat token nothing is stored, but its statements ask a text for a key. -/
theorem runAll_effectsCode_fault_flatResponse :
    login.respond flatResponse ⟨none, none, none, none⟩ =
      ⟨none, none, some "ticket", none⟩ ∧ (runAll (effectsCode login.effects)
        ((State.entry .standard ⟨none, none, none, none⟩ .empty true).receive
          flatResponse)).2 = .fault := by
  refine ⟨rfl, runAll_effectsCode_of_not_fits login (State.responds_receive ..)
    fun fits => ?_⟩
  obtain ⟨_, followed, _⟩ := fits rfl .persistNestedEntityToken (by decide)
  cases followed

end Statement

end Script

end GodotSdk
