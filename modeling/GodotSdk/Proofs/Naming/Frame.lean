import GodotSdk.Naming.Sanitized
import GodotSdk.Proofs.Naming.Closure
import Mathlib.Data.List.Forall2

/-!
# What sanitizing keeps

A sanitized description differs from the one that it was made from in the names that are
reserved, and in nothing else. The rest stays where it is, the keys of serialized data
among it, and references follow the datatypes that they name.
-/

namespace GodotSdk

/-! ## Lists side by side

What the elements of two lists have in common, position by position, the lists have in
common. -/

section SideBySide

variable {α β : Type} {related : α → α → Prop} {before after : List α}

theorem map_eq_of_forall₂ {f g : α → β} (pairs : List.Forall₂ related before after)
    (each : ∀ old new, related old new → g new = f old) :
    after.map g = before.map f := by
  induction pairs with
  | nil => rfl
  | cons pair _ ih => rw [List.map_cons, List.map_cons, each _ _ pair, ih]

theorem exists_related_of_mem (pairs : List.Forall₂ related before after) {new : α}
    (member : new ∈ after) :
    ∃ old ∈ before, related old new := by
  induction pairs with
  | nil => cases member
  | @cons old other _ _ pair _ ih =>
      rcases List.mem_cons.mp member with rfl | member
      · exact ⟨old, List.mem_cons_self .., pair⟩
      · obtain ⟨found, among, pair⟩ := ih member
        exact ⟨found, List.mem_cons_of_mem _ among, pair⟩

/-- A list beside its image under a function. -/
theorem forall₂_map_self {f : α → α} (each : ∀ value, related value (f value))
    (values : List α) :
    List.Forall₂ related values (values.map f) := by
  rw [List.forall₂_map_right_iff, List.forall₂_same]
  exact fun value _ => each value

theorem flatMap_zip_map_self (f : α → α) (both : α → α → List β) (values : List α) :
    ((values.zip (values.map f)).flatMap fun pair => both pair.1 pair.2) =
      values.flatMap fun value => both value (f value) := by
  induction values with
  | nil => rfl
  | cons first rest ih =>
      rw [List.map_cons, List.zip_cons_cons, List.flatMap_cons, List.flatMap_cons, ih]

end SideBySide

/-! ## Descriptions and their copies -/

theorem ActualType.mem_target?_iff {type : ActualType} {target : String} :
    target ∈ type.target? ↔ type = .complex target := by
  cases type <;> simp [target?]

/-- A property and its copy, in which other names stand for the reserved ones. A copy
that was renamed remembers the first name. -/
structure Property.SameButNames (table : ReservedNames) (before after : Property) :
    Prop where
  wireName : after.wireName = before.wireName
  collection : after.collection = before.collection
  isOptional : after.isOptional = before.isOptional
  description : after.description = before.description
  deprecation : after.deprecation = before.deprecation
  name : after.name = before.name ↔ table.contains before.name = false
  primitive : before.actualType.target? = none → after.actualType = before.actualType
  reference : ∀ target, before.actualType = .complex target → ∃ renamed,
    after.actualType = .complex renamed ∧
      (renamed = target ↔ table.contains target = false)
  originalName : after.originalName ≠ before.originalName → after.name ≠ before.name ∧
    before.originalName = none

/-- A datatype and its copy, in which other names stand for the reserved ones. -/
structure Datatype.SameButNames (table : ReservedNames) (before after : Datatype) :
    Prop where
  name : after.name = before.name ↔ table.contains before.name = false
  properties :
    List.Forall₂ (Property.SameButNames table) before.properties after.properties
  description : after.description = before.description
  deprecation : after.deprecation = before.deprecation

namespace ApiDescription

/-- The name of a datatype by its position. -/
def className? (api : ApiDescription) (index : Nat) : Option String :=
  api.datatypes[index]?.map (·.name)

/-- The name that the property at a position refers to, by the positions of its datatype
and in it. -/
def reference? (api : ApiDescription) (owner member : Nat) : Option String := do
  let datatype ← api.datatypes[owner]?
  let property ← datatype.properties[member]?
  property.actualType.target?

/-- A description and its copy, in which other names stand for the reserved ones. What
refers to a datatype refers to the copy of that datatype in the copy. -/
structure SameButNames (table : ReservedNames) (before after : ApiDescription) :
    Prop where
  name : after.name = before.name
  datatypes : List.Forall₂ (Datatype.SameButNames table) before.datatypes
    after.datatypes
  calls : after.calls = before.calls
  errorList : after.errorList = before.errorList
  errors : after.errors = before.errors
  references : ∀ owner member index target,
    before.reference? owner member = some target →
      before.className? index = some target →
      ∃ renamed, after.reference? owner member = some renamed ∧
        after.className? index = some renamed

end ApiDescription

namespace Sanitizer

variable (sanitizer : Sanitizer)

@[simp] theorem wireName_property (property : Property) :
    (sanitizer.property property).wireName = property.wireName := by
  cases reserved : sanitizer.isReserved property.name with
  | true => simp [Sanitizer.property, Property.wireName, reserved]
  | false => simp [Sanitizer.property, Property.wireName, propertyName, reserved]

/-- Only a property that is renamed and has no first name yet gets one. -/
theorem originalName_property {property : Property}
    (changed : (sanitizer.property property).originalName ≠ property.originalName) :
    (sanitizer.property property).name ≠ property.name ∧
      property.originalName = none := by
  cases reserved : sanitizer.isReserved property.name with
  | false => simp [Sanitizer.property, reserved] at changed
  | true =>
      cases original : property.originalName with
      | some first => simp [Sanitizer.property, reserved, original] at changed
      | none =>
          refine ⟨fun same => ?_, rfl⟩
          have free := sanitizer.propertyName_eq_self_iff.mp same
          rw [reserved] at free
          cases free

@[simp] theorem target?_actualType (type : ActualType) :
    (sanitizer.actualType type).target? = type.target?.map sanitizer.className := by
  cases type <;> rfl

theorem actualType_property {property : Property} {target : String}
    (refers : target ∈ property.actualType.target?) :
    (sanitizer.property property).actualType =
      .complex (sanitizer.className target) := by
  rw [ActualType.mem_target?_iff] at refers
  simp only [Sanitizer.property, refers, actualType]

theorem sameButNames_property (property : Property) :
    property.SameButNames sanitizer.reserved (sanitizer.property property) where
  wireName := sanitizer.wireName_property property
  collection := rfl
  isOptional := rfl
  description := rfl
  deprecation := rfl
  name := sanitizer.propertyName_eq_self_iff
  primitive := by
    intro primitive
    simp only [Sanitizer.property]
    cases type : property.actualType with
    | complex target => simp [type, ActualType.target?] at primitive
    | _ => rfl
  reference := by
    intro target refers
    have renamed :=
      sanitizer.actualType_property (ActualType.mem_target?_iff.mpr refers)
    exact ⟨sanitizer.className target, renamed, sanitizer.className_eq_self_iff⟩
  originalName := sanitizer.originalName_property

theorem sameButNames_datatype (datatype : Datatype) :
    datatype.SameButNames sanitizer.reserved (sanitizer.datatype datatype) where
  name := sanitizer.className_eq_self_iff
  properties := forall₂_map_self sanitizer.sameButNames_property datatype.properties
  description := rfl
  deprecation := rfl

/-! ## References by position -/

variable (api : ApiDescription)

theorem className?_sanitize (index : Nat) :
    (sanitizer.sanitize api).api.className? index =
      (api.className? index).map sanitizer.className := by
  simp only [ApiDescription.className?, sanitize, List.getElem?_map, Option.map_map]
  rfl

theorem reference?_sanitize (owner member : Nat) :
    (sanitizer.sanitize api).api.reference? owner member =
      (api.reference? owner member).map sanitizer.className := by
  cases described : api.datatypes[owner]? with
  | none => simp [ApiDescription.reference?, sanitize, described]
  | some datatype =>
      cases declared : datatype.properties[member]? <;>
        simp [ApiDescription.reference?, sanitize, described, Sanitizer.datatype,
          declared, Sanitizer.property]

/-- Sanitizing gives other names to what has a reserved one, and keeps everything
else. -/
theorem sameButNames_sanitize :
    api.SameButNames sanitizer.reserved (sanitizer.sanitize api).api where
  name := rfl
  datatypes := forall₂_map_self sanitizer.sameButNames_datatype api.datatypes
  calls := rfl
  errorList := rfl
  errors := rfl
  references := by
    intro owner member index target refers named
    refine ⟨sanitizer.className target, ?_, ?_⟩
    · rw [sanitizer.reference?_sanitize, refers, Option.map_some]
    · rw [sanitizer.className?_sanitize, named, Option.map_some]

end Sanitizer

end GodotSdk
