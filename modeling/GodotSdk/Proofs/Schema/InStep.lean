import GodotSdk.Proofs.Schema.Records
import Mathlib.Data.List.Find

/-!
# Readings in step

Two readings are in step if both succeed, with related results, or both fail. What each
of them would tell of its failure does not matter. Readings in step stay in step
whatever both are followed by, and a record is read in step from related parts if its
fields are.
-/

namespace GodotSdk.Schema

variable {α β γ δ : Type} {related : α → β → Prop}

/-- Two readings that succeed together, with related results. -/
inductive InStep (related : α → β → Prop) : Read α → Read β → Prop
  | ok {left : α} {right : β} (same : related left right) :
      InStep related (.ok left) (.ok right)
  | error (left right : ReadError) : InStep related (.error left) (.error right)

namespace InStep

variable {left : Read α} {right : Read β}

theorem refl (read : Read α) : InStep Eq read read := by
  cases read with
  | error error => exact .error error error
  | ok value => exact .ok rfl

theorem bind {onward : γ → δ → Prop} {f : α → Read γ} {g : β → Read δ}
    (inStep : InStep related left right)
    (next : ∀ first second, related first second → InStep onward (f first) (g second)) :
    InStep onward (left >>= f) (right >>= g) := by
  cases inStep with
  | ok same => exact next _ _ same
  | error left right => exact .error left right

/-- Two readings that begin with the same one. -/
theorem bind_same {onward : γ → δ → Prop} {f : α → Read γ} {g : α → Read δ}
    (next : ∀ value, InStep onward (f value) (g value)) :
    InStep onward (left >>= f) (left >>= g) :=
  (refl left).bind fun value _ same => same ▸ next value

theorem outcomes (inStep : InStep related left right) :
    (∃ first second, left = .ok first ∧ right = .ok second ∧ related first second) ∨
      ∃ first second, left = .error first ∧ right = .error second := by
  cases inStep with
  | ok same => exact .inl ⟨_, _, rfl, rfl, same⟩
  | error first second => exact .inr ⟨first, second, rfl, rfl⟩

/-- Readings in step stay so at places further into their documents. -/
theorem within (first second : Segment) (inStep : InStep related left right) :
    InStep related (Schema.within first left) (Schema.within second right) := by
  cases inStep with
  | ok same => exact .ok same
  | error left right => exact .error _ _

end InStep

/-! ## Fields in step -/

section Fields

variable {ν σ : Type} {related : σ → σ → Prop}

/-- A field that is in step in related parts: it is there in both or in neither, and
reading it keeps them related. -/
structure Field.InStep (related : σ → σ → Prop) (field : Field ν σ) : Prop where
  present {left right : σ} (same : related left right) : field.present left =
    field.present right
  read {left right : σ} (same : related left right) (node : ν) :
    Schema.InStep related (field.read node left) (field.read node right)

/-- A field that is there in all related parts, so that it cannot be read any more. -/
def Field.Settled (related : σ → σ → Prop) (field : Field ν σ) : Prop :=
  ∀ left right, related left right → field.present left = true ∧
    field.present right = true

variable {key : String} {get : σ → Option α} {set : α → σ → σ} {read : ν → Read α}

theorem inStep_required (gets : ∀ left right, related left right → get left = get right)
    (sets : ∀ part left right, related left right →
      related (set part left) (set part right)) :
    (required key get set read).InStep related where
  present {left right} same := congrArg Option.isSome (gets left right same)
  read {left right} same _ :=
    InStep.bind_same fun part => .ok (sets part left right same)

theorem inStep_defaulted
    (gets : ∀ left right, related left right → get left = get right)
    (sets : ∀ part left right, related left right →
      related (set part left) (set part right)) :
    (defaulted key get set read).InStep related where
  present {left right} same := congrArg Option.isSome (gets left right same)
  read {left right} same _ :=
    InStep.bind_same fun part => .ok (sets part left right same)

/-! ## Records in step -/

variable [Source ν] {fields : List (Field ν σ)} {left right : σ}

/-- The fields of a record are in step by name if each of them is, unless it has been
read before. -/
theorem inStep_readFields
    (each : ∀ field ∈ fields, field.Settled related ∨ field.InStep related)
    (entries : List (Read FieldName × Read ν)) (same : related left right) :
    InStep related (readFields fields left entries) (readFields fields right entries) :=
  by
  induction entries generalizing left right with
  | nil => exact .ok same
  | cons entry rest ih =>
      obtain ⟨key, value⟩ := entry
      rw [readFields, readFields]
      refine .bind_same fun key => ?_
      cases found : findField fields key with
      | none => exact .bind_same fun _ => .bind_same fun _ => ih same
      | some field =>
          rcases each field (mem_of_findField found) with settled | inStep
          · obtain ⟨presentLeft, presentRight⟩ := settled left right same
            simp only [presentLeft, presentRight, ↓reduceIte]
            exact .error _ _
          · simp only [inStep.present same]
            split
            · exact .error _ _
            · refine .bind_same fun node => ?_
              exact ((inStep.read same node).within _ _).bind fun _ _ next => ih next

omit [Source ν] in
/-- The fields of a record are in step in order if each of them is. -/
theorem inStep_readValues (each : ∀ field ∈ fields, field.InStep related)
    (record : String) (total count : Nat) (finish : Nat → Read Unit)
    (items : List (Read ν)) (same : related left right) :
    InStep related (readValues record total finish count left fields items)
      (readValues record total finish count right fields items) := by
  induction fields generalizing left right count items with
  | nil =>
      rw [readValues, readValues]
      exact .bind_same fun _ => .ok same
  | cons field fields ih =>
      obtain ⟨inStep, each⟩ := List.forall_mem_cons.mp each
      cases items with
      | nil =>
          rw [readValues, readValues]
          split
          · exact .error _ _
          · exact ih each count [] same
      | cons item items =>
          rw [readValues, readValues]
          refine .bind_same fun node => ?_
          exact ((inStep.read same node).within _ _).bind fun _ _ next =>
            ih each (count + 1) items next

omit [Source ν] in
/-- The same required fields are missing in related parts. -/
theorem find?_missing_eq (each : ∀ field ∈ fields, field.Settled related ∨
    field.InStep related) (same : related left right) :
    (fields.find? fun field => field.required && !field.present left) =
      fields.find? fun field => field.required && !field.present right := by
  refine List.find?_congr fun field member => ?_
  rcases each field member with settled | inStep
  · obtain ⟨presentLeft, presentRight⟩ := settled left right same
    rw [presentLeft, presentRight]
  · rw [inStep.present same]

end Fields

end GodotSdk.Schema
