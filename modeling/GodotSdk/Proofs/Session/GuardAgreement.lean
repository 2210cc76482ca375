import GodotSdk.Proofs.Session.Checks
import GodotSdk.Proofs.Session.GuardCode

/-!
# Printed guards against guards

A guard exists twice: as a decision about settings and a request, and as statements of a
generated function. Both end alike, report the same error and leave the same request,
with one exception. Where only the request has a title id, the decision wants a text
that is not empty, but the statements take whatever counts as true.
-/

namespace GodotSdk

namespace Guard

open Script (Value State Ending)

/-- Run the statements of a guard at the start of a function. -/
def runCode (guard : Guard) (names : SdkNames) (settings : Settings) (request : Request)
    (listening : Bool) : State × Ending :=
  Script.Statement.runAll (Script.guardCode names guard)
    (.entry names settings request listening)

/-- The statements of a guard do what the guard decides: they go on or return, pass its
error to the callback, and leave its request behind. -/
structure Agrees (guard : Guard) (names : SdkNames) (settings : Settings)
    (request : Request) (listening : Bool) : Prop where
  ending : (guard.runCode names settings request listening).2 =
    match (guard.check settings request).result with
    | .ok _ => .next
    | .error _ => .left
  notified : (guard.runCode names settings request listening).1.notified =
    if listening then
      (guard.check settings request).reported.toList.map fun error =>
        [.null, .ofError names error]
    else []
  request : (guard.runCode names settings request listening).1.get? "request" =
    some (.ofRequest (guard.check settings request).request)

/-- The title id is up to the request, whose title id is no text and yet counts as
true. -/
def OddTitleId (settings : Settings) (request : Request) : Prop :=
  settings.presentTitleId = none ∧
    ∃ value, request.get? titleIdKey = some value ∧ value.text? = none ∧
      (Value.ofJson value).truthy = true

/-! ## The title id -/

theorem truthy_eq_hasTitleId_iff {request : Request} {value : Json.Value}
    (own : request.get? titleIdKey = some value) :
    (Value.ofJson value).truthy = hasTitleId request ↔
      ¬ (value.text? = none ∧ (Value.ofJson value).truthy = true) := by
  unfold hasTitleId
  rw [own]
  cases value <;> simp [Json.Value.text?, Value.ofJson, Value.truthy]

theorem truthy_of_hasTitleId {request : Request} {value : Json.Value}
    (own : request.get? titleIdKey = some value) (has : hasTitleId request = true) :
    (Value.ofJson value).truthy = true := by
  unfold hasTitleId at has
  rw [own] at has
  cases value <;> simp_all [Value.ofJson, Value.truthy]

theorem oddTitleId_iff {settings : Settings} {request : Request} {value : Json.Value}
    (own : (withTitleId settings request).get? titleIdKey = some value) :
    OddTitleId settings request ↔
      value.text? = none ∧ (Value.ofJson value).truthy = true := by
  unfold withTitleId at own
  unfold OddTitleId
  cases present : settings.presentTitleId with
  | some text =>
      rw [present] at own
      simp only [OrderedMap.get?_insert, if_true, Option.some.injEq] at own
      simp [← own, Json.Value.text?]
  | none =>
      cases stored : request.get? titleIdKey with
      | some value' =>
          simp only [present, stored, Option.some.injEq] at own
          simp [own]
      | none =>
          simp only [present, stored, OrderedMap.get?_insert, if_true,
            Option.some.injEq] at own
          simp [← own, Json.Value.text?]

/-! ## Agreement -/

section Agreement

variable {guard : Guard} {names : SdkNames} {settings : Settings} {request : Request}
  {listening : Bool}
  {after : State}

theorem failure?_of_decide {error : CallError}
    (failed : guard.decide settings request = .error error) :
    guard.failure? = some error := by
  cases guard with
  | titleId =>
      cases has : hasTitleId request with
      | true => simp [decide, has] at failed
      | false =>
          obtain rfl : missingTitleId = error := by simpa [decide, has] using failed
          rfl
  | selectCredential => simp [decide] at failed
  | require credential =>
      cases present : settings.credential? credential with
      | some value => simp [decide, present] at failed
      | none =>
          obtain rfl : notAuthenticated credential = error := by
            simpa [decide, present] using failed
          rfl

/-- Statements that go on agree with the guard if it lets the call go on. -/
theorem agrees_iff_of_next
    (ran : guard.runCode names settings request listening = (after, .next))
    (quiet : after.notified = [])
    (kept : after.get? "request" = some (.ofRequest (guard.prepare settings request))) :
    guard.Agrees names settings request listening ↔
      ∃ header, guard.decide settings (guard.prepare settings request) =
        .ok header := by
  constructor
  · intro agrees
    have ending := agrees.ending
    rw [ran] at ending
    simp only [check] at ending
    split at ending
    · next header passed => exact ⟨header, passed⟩
    · cases ending
  · rintro ⟨header, passed⟩
    exact ⟨by simp [ran, check, passed], by simp [ran, check, passed, quiet],
      by simp [ran, check, kept]⟩

/-- Statements that fail agree with the guard if it fails. -/
theorem agrees_iff_of_left
    (ran : guard.runCode names settings request listening =
      (after.fail names guard listening, .left))
    (quiet : after.notified = [])
    (kept : after.get? "request" = some (.ofRequest (guard.prepare settings request))) :
    guard.Agrees names settings request listening ↔
      ∃ error, guard.decide settings (guard.prepare settings request) =
        .error error := by
  constructor
  · intro agrees
    have ending := agrees.ending
    rw [ran] at ending
    simp only [check] at ending
    split at ending
    · cases ending
    · next error failed => exact ⟨error, failed⟩
  · rintro ⟨error, failed⟩
    have reported := failure?_of_decide failed
    exact ⟨by simp [ran, check, failed],
      by simp [ran, check, failed, State.fail, quiet, reported],
      by simpa [ran, check, State.fail, State.get?] using kept⟩

theorem agrees_titleId_iff :
    Guard.titleId.Agrees names settings request listening ↔
      ¬ OddTitleId settings request := by
  obtain ⟨value, own⟩ := exists_titleId settings request
  have sees := State.sees_entry names settings request listening
  have ran : Guard.titleId.runCode names settings request listening = _ :=
    Script.Statement.runAll_guardCode_titleId sees own
  have kept :=
    State.get?_of_local (sees.assign_request (withTitleId settings request)).request
  rw [oddTitleId_iff own, ← truthy_eq_hasTitleId_iff own]
  cases true? : (Value.ofJson value).truthy with
  | true =>
      rw [true?, if_pos rfl] at ran
      rw [agrees_iff_of_next ran rfl kept]
      cases has : hasTitleId (withTitleId settings request) <;>
        simp [decide, prepare, has]
  | false =>
      rw [true?, if_neg (by simp)] at ran
      rw [agrees_iff_of_left ran rfl kept]
      cases has : hasTitleId (withTitleId settings request) <;>
        simp [decide, prepare, has]

theorem agrees_selectCredential :
    Guard.selectCredential.Agrees names settings request listening := by
  have sees := State.sees_entry names settings request listening
  have ran : Guard.selectCredential.runCode names settings request listening = _ :=
    Script.Statement.runAll_guardCode_selectCredential sees
  have kept (name value : String) :=
    State.get?_of_local (sees.withHeader name value).request
  cases best : settings.best? with
  | none =>
      rw [best] at ran
      exact (agrees_iff_of_next ran rfl (kept "" "")).mpr ⟨_, rfl⟩
  | some choice =>
      obtain ⟨credential, value⟩ := choice
      rw [best] at ran
      exact (agrees_iff_of_next ran rfl (kept credential.header value)).mpr ⟨_, rfl⟩

theorem agrees_require (credential : Credential) :
    (Guard.require credential).Agrees names settings request listening := by
  have sees := State.sees_entry names settings request listening
  have ran : (Guard.require credential).runCode names settings request listening = _ :=
    Script.Statement.runAll_guardCode_require sees credential
  have kept := State.get?_of_local sees.request
  cases present : settings.credential? credential with
  | some value =>
      rw [present, if_pos (by simp)] at ran
      exact (agrees_iff_of_next ran rfl kept).mpr ⟨some (.of credential value),
        by simp [decide, present]⟩
  | none =>
      rw [present, if_neg (by simp)] at ran
      exact (agrees_iff_of_left ran rfl kept).mpr ⟨notAuthenticated credential,
        by simp [decide, present]⟩

end Agreement

/-- The printed guard of a call does what the guard of the call decides, exactly if the
title id of the request is not an odd one that matters. -/
theorem agrees_iff_not_oddTitleId (call : ApiCall) (names : SdkNames)
    (settings : Settings) (request : Request) (listening : Bool) :
    (∀ guard, call.guard? = some guard →
      guard.Agrees names settings request listening) ↔
      ¬ (call.guard? = some .titleId ∧ OddTitleId settings request) := by
  constructor
  · rintro agrees ⟨guarded, odd⟩
    exact agrees_titleId_iff.mp (agrees .titleId guarded) odd
  · intro fine guard guarded
    cases guard with
    | titleId => exact agrees_titleId_iff.mpr fun odd => fine ⟨guarded, odd⟩
    | selectCredential => exact agrees_selectCredential
    | require credential => exact agrees_require credential

/-- A login whose title id is the number five is refused by its guard, but not by the
statements of the guard. -/
theorem not_agrees_numeric_titleId :
    ApiCall.guard? ⟨"LoginWithCustomID", "/Client/LoginWithCustomID", none,
      some "LoginResult",
        .anonymous, none, none⟩ = some .titleId ∧
      ¬ Guard.titleId.Agrees .standard ⟨none, none, none, none⟩
        (.ofList [("TitleId", .number (.int 5))]) true := by
  refine ⟨rfl,
    fun agrees => agrees_titleId_iff.mp agrees ⟨rfl, .number (.int 5), ?_, rfl, rfl⟩⟩
  simp [titleIdKey, OrderedMap.ofList, OrderedMap.get?_insert]

end Guard

end GodotSdk
