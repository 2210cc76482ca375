import GodotSdk.Session.Effect
import GodotSdk.Session.Guard

/-!
# Histories of settings

What is done with settings over time: guards look at them, responses to calls store
credentials in them, and so does whoever calls. At the end every credential has the
value that was stored for it last, and all else is as it was in the beginning. So a
guard that requires a credential goes by the last value that was stored for it.
-/

namespace GodotSdk

/-! ## Effects one after the other -/

/-- Carry out effects on a response in order. What one of them finds is stored before
the next one looks. -/
def Effect.carryOut (response : Json.Value) :
    List Effect → Settings → List Persist × Settings
  | [], settings => ([], settings)
  | effect :: rest, settings =>
      match effect.extract? response with
      | none => carryOut response rest settings
      | some change =>
          let (changes, after) := carryOut response rest (settings.persist change)
          (change :: changes, after)

/-- Effects do not look at what was stored, so all may be found before any is stored. -/
theorem Effect.carryOut_eq (response : Json.Value) (effects : List Effect)
    (settings : Settings) :
    carryOut response effects settings =
      (effects.filterMap (·.extract? response),
        (effects.filterMap (·.extract? response)).foldl Settings.persist settings) := by
  induction effects generalizing settings with
  | nil => rfl
  | cons effect rest ih =>
      cases extracted : effect.extract? response with
      | none => simp [carryOut, extracted, ih]
      | some change => simp [carryOut, extracted, ih]

theorem ApiCall.carryOut_effects (call : ApiCall) (response : Json.Value)
    (settings : Settings) :
    Effect.carryOut response call.effects settings =
      (call.persists response, call.respond response settings) :=
  Effect.carryOut_eq response call.effects settings

theorem Effect.credential_of_extract? {effect : Effect} {response : Json.Value}
    {change : Persist} (extracted : effect.extract? response = some change) :
    change.credential = effect.credential := by
  simp only [extract?, Option.bind_eq_bind, Option.pure_def, Option.bind_eq_some_iff,
    Option.some.injEq] at extracted
  obtain ⟨_, _, _, _, rfl⟩ := extracted
  rfl

/-- A call has one effect at most for each credential. -/
theorem ApiCall.nodup_effects (call : ApiCall) :
    (call.effects.map (·.credential)).Nodup := by
  cases role : call.resultRole? with
  | none => simp [effects, role]
  | some role' =>
      cases role' <;> simp [effects, role, ResultRole.effects, Effect.credential]

theorem Effect.persists_sublist (effects : List Effect) (response : Json.Value) :
    ((effects.filterMap (·.extract? response)).map (·.credential)).Sublist
      (effects.map (·.credential)) := by
  induction effects with
  | nil => simp
  | cons effect rest ih =>
      cases extracted : effect.extract? response with
      | none => simpa [extracted] using ih.cons effect.credential
      | some change =>
          simpa [extracted, credential_of_extract? extracted]
            using ih.cons_cons effect.credential

theorem ApiCall.nodup_persists (call : ApiCall) (response : Json.Value) :
    ((call.persists response).map (·.credential)).Nodup :=
  (Effect.persists_sublist call.effects response).nodup call.nodup_effects

/-- Of changes for different credentials, the one for a credential tells its value. -/
theorem Settings.stored_foldl_persist_iff {changes : List Persist}
    (distinct : (changes.map (·.credential)).Nodup) (settings : Settings)
    (credential : Credential) (value : String) :
    (changes.foldl persist settings).stored credential = some value ↔
      ⟨credential, value⟩ ∈ changes ∨
        (∀ other, ⟨credential, other⟩ ∉ changes) ∧
          settings.stored credential = some value := by
  induction changes generalizing settings with
  | nil => simp
  | cons change rest ih =>
      obtain ⟨own, text⟩ := change
      obtain ⟨fresh, distinct⟩ := List.nodup_cons.mp distinct
      rw [List.foldl_cons, ih distinct, stored_persist]
      by_cases same : own = credential
      · subst same
        have absent (other : String) : (⟨own, other⟩ : Persist) ∉ rest := fun member =>
          fresh (List.mem_map.mpr ⟨_, member, rfl⟩)
        simp [absent, eq_comm]
      · have foreign (other : String) : (⟨credential, other⟩ : Persist) ≠
            ⟨own, text⟩ := by
          simp [Ne.symm same]
        simp [same, foreign]

/-! ## Operations -/

/-- What may be done with settings. -/
inductive Operation
  | check (guard : Guard) (request : Request)
  | respond (call : ApiCall) (response : Json.Value)
  | persist (change : Persist)

/-- What an operation gives back: what a guard decided, or what was stored. -/
inductive Answer
  | checked (outcome : GuardOutcome)
  | stored (changes : List Persist)

namespace Operation

/-- Carry out an operation. -/
def run (settings : Settings) : Operation → Answer × Settings
  | .check guard request => (.checked (guard.check settings request), settings)
  | .respond call response =>
      let (changes, after) := Effect.carryOut response call.effects settings
      (.stored changes, after)
  | .persist change => (.stored [change], settings.persist change)

/-- Whether an operation stores a value of a credential: it is asked to, or an effect of
a call finds the value. -/
def Stores (credential : Credential) (value : String) : Operation → Prop
  | .check _ _ => False
  | .respond call response =>
      ∃ effect ∈ call.effects, effect.extract? response = some ⟨credential, value⟩
  | .persist change => change = ⟨credential, value⟩

theorem titleId_run (operation : Operation) (settings : Settings) :
    (operation.run settings).2.titleId = settings.titleId := by
  cases operation with
  | check guard request => rfl
  | persist change => exact settings.titleId_persist change
  | respond call response =>
      rw [run, call.carryOut_effects, ApiCall.respond]
      induction call.persists response generalizing settings with
      | nil => rfl
      | cons change rest ih => rw [List.foldl_cons, ih, settings.titleId_persist]

/-- After an operation a credential has the value that the operation stores, or else the
one that it had. -/
theorem stored_run_iff (operation : Operation) (settings : Settings)
    (credential : Credential) (value : String) :
    (operation.run settings).2.stored credential = some value ↔
      operation.Stores credential value ∨
        (∀ other, ¬ operation.Stores credential other) ∧
          settings.stored credential = some value := by
  cases operation with
  | check guard request => simp [run, Stores]
  | persist change =>
      have distinct : ([change].map (·.credential)).Nodup := by simp
      have single :=
        Settings.stored_foldl_persist_iff distinct settings credential value
      simpa [run, Stores, eq_comm] using single
  | respond call response =>
      rw [run, call.carryOut_effects, ApiCall.respond,
        Settings.stored_foldl_persist_iff (call.nodup_persists response)]
      simp [Stores, ApiCall.persists]

end Operation

/-! ## Runs -/

namespace Settings

/-- The settings after operations. -/
def after (settings : Settings) (operations : List Operation) : Settings :=
  operations.foldl (fun settings operation => (operation.run settings).2) settings

@[simp] theorem after_nil (settings : Settings) : settings.after [] = settings :=
  rfl

@[simp] theorem after_cons (settings : Settings) (operation : Operation)
    (rest : List Operation) :
    settings.after (operation :: rest) = (operation.run settings).2.after rest :=
  rfl

@[simp] theorem after_append (settings : Settings) (earlier later : List Operation) :
    settings.after (earlier ++ later) = (settings.after earlier).after later :=
  List.foldl_append

theorem titleId_after (settings : Settings) (operations : List Operation) :
    (settings.after operations).titleId = settings.titleId := by
  induction operations generalizing settings with
  | nil => rfl
  | cons operation rest ih => rw [after_cons, ih, operation.titleId_run]

end Settings

/-- Among operations, the last one that stores a credential stores the given value. -/
def LastStored (operations : List Operation) (credential : Credential)
    (value : String) : Prop :=
  ∃ earlier operation later, operations = earlier ++ operation :: later ∧
    operation.Stores credential value ∧ ∀ other ∈ later, ∀ text,
      ¬ other.Stores credential text

theorem lastStored_cons_iff {operation : Operation} {rest : List Operation}
    {credential : Credential} {value : String} :
    LastStored (operation :: rest) credential value ↔
      LastStored rest credential value ∨
        (∀ other ∈ rest, ∀ text, ¬ other.Stores credential text) ∧
          operation.Stores credential value := by
  constructor
  · rintro ⟨earlier, last, later, split, stores, silent⟩
    cases earlier with
    | nil =>
        obtain ⟨rfl, rfl⟩ := List.cons.inj split
        exact .inr ⟨silent, stores⟩
    | cons first earlier =>
        obtain ⟨rfl, rfl⟩ := List.cons.inj split
        exact .inl ⟨earlier, last, later, rfl, stores, silent⟩
  · rintro (⟨earlier, last, later, rfl, stores, silent⟩ | ⟨silent, stores⟩)
    · exact ⟨operation :: earlier, last, later, rfl, stores, silent⟩
    · exact ⟨[], operation, rest, rfl, stores, silent⟩

/-- After any operations a credential has the value that was stored last, or the initial
one if none was. -/
theorem Settings.stored_after_iff (settings : Settings) (operations : List Operation)
    (credential : Credential) (value : String) :
    (settings.after operations).stored credential = some value ↔
      LastStored operations credential value ∨
        (∀ operation ∈ operations, ∀ text, ¬ operation.Stores credential text) ∧
          settings.stored credential = some value := by
  induction operations generalizing settings with
  | nil => simp [LastStored]
  | cons operation rest ih =>
      rw [after_cons, ih, operation.stored_run_iff, lastStored_cons_iff,
        List.forall_mem_cons]
      constructor
      · rintro (last | ⟨silent, stores | ⟨quiet, initial⟩⟩)
        · exact .inl (.inl last)
        · exact .inl (.inr ⟨silent, stores⟩)
        · exact .inr ⟨⟨quiet, silent⟩, initial⟩
      · rintro ((last | ⟨silent, stores⟩) | ⟨⟨quiet, silent⟩, initial⟩)
        · exact .inl last
        · exact .inr ⟨silent, .inl stores⟩
        · exact .inr ⟨silent, .inr ⟨quiet, initial⟩⟩

theorem Guard.check_require_eq_ok_iff (settings : Settings) (credential : Credential)
    (request : Request) (header : Option AuthHeader) :
    ((Guard.require credential).check settings request).result = .ok header ↔
      ∃ value, settings.stored credential = some value ∧ value ≠ "" ∧
        header = some ⟨credential.header, value⟩ := by
  have decided : ((Guard.require credential).check settings request).result =
      (Guard.require credential).decide settings request := rfl
  rw [decided, Guard.decide]
  cases found : settings.credential? credential with
  | none =>
      simp only [reduceCtorEq, false_iff, not_exists, not_and]
      intro value stored nonempty
      rw [Settings.credential?,
        Settings.present_eq_some_iff.mpr ⟨stored, nonempty⟩] at found
      cases found
  | some value =>
      obtain ⟨stored, nonempty⟩ := Settings.present_eq_some_iff.mp found
      simp [stored, nonempty, AuthHeader.of, eq_comm]

/-- Settings keep what is done with them. Whatever operations are carried out, a
credential has the value that the last operation to store it has stored, the title id
stays, and requiring a credential goes by this value: it succeeds exactly if there is
one and it is not empty, with the header that carries it. What a response to a call
stores comes back as changes, which lead from the settings before to those after it. -/
theorem history_of_settings (settings : Settings) (operations : List Operation) :
    (∀ credential value, (settings.after operations).stored credential = some value ↔
      LastStored operations credential value ∨
        (∀ operation ∈ operations, ∀ text, ¬ operation.Stores credential text) ∧
          settings.stored credential = some value) ∧
    (settings.after operations).titleId = settings.titleId ∧
    (∀ credential request header,
      ((Guard.require credential).check (settings.after operations) request).result =
        .ok header ↔
        ∃ value, (settings.after operations).stored credential = some value ∧
          value ≠ "" ∧ header = some ⟨credential.header, value⟩) ∧
    (∀ earlier call response later,
      operations = earlier ++ .respond call response :: later →
      ∃ changes, changes = call.persists response ∧
        (Operation.respond call response).run (settings.after earlier) =
          (.stored changes, call.respond response (settings.after earlier)) ∧
        changes.foldl Settings.persist (settings.after earlier) =
          settings.after (earlier ++ [.respond call response])) := by
  refine ⟨settings.stored_after_iff operations, settings.titleId_after operations,
    Guard.check_require_eq_ok_iff (settings.after operations), ?_⟩
  rintro earlier call response later rfl
  have ran : (Operation.respond call response).run (settings.after earlier) =
      (.stored (call.persists response),
        call.respond response (settings.after earlier)) := by
    rw [Operation.run, call.carryOut_effects]
  refine ⟨call.persists response, rfl, ran, ?_⟩
  rw [Settings.after_append, Settings.after_cons, ran, Settings.after_nil,
    ApiCall.respond]

end GodotSdk
