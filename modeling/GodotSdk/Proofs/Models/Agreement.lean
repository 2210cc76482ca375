import GodotSdk.Proofs.Models.Filling
import Mathlib.Data.List.Forall2

/-!
# Members of sanitized properties

A member can be made from a property as it was described or from its sanitized copy. The
copy has its new name and its new type already, and remembers the key, so the two
members are written alike: what is sanitized stays as it is when it is sanitized once
more.
-/

namespace GodotSdk.Script

/-! ## Types of sanitized properties -/

namespace MemberType

variable (sanitizer : Sanitizer) (type : ActualType)

@[simp] theorem ofActual_actualType :
    ofActual sanitizer (sanitizer.actualType type) = ofActual sanitizer type := by
  cases type with
  | complex target => simp [Sanitizer.actualType, ofActual]
  | _ => rfl

@[simp] theorem of_actualType (collection : Option Collection) :
    of sanitizer (sanitizer.actualType type) collection =
      of sanitizer type collection := by
  cases collection with
  | none => exact ofActual_actualType sanitizer type
  | some kind => cases kind <;> rfl

end MemberType

/-! ## Members that are written alike -/

namespace Member

/-- Two members for which the same code is written, in every part that depends on the
property. -/
structure Agrees (left right : Member) : Prop where
  name : left.name = right.name
  key : left.key = right.key
  type : left.type = right.type
  annotation : left.annotation? = right.annotation?
  initial : left.initial = right.initial
  declaration : left.declaration = right.declaration
  load : left.load = right.load
  store : left.store = right.store

/-- The code of a member comes from its name, its key, its type, and whether it is
optional. -/
theorem agrees_of_parts {left right : Member} (name : left.name = right.name)
    (key : left.key = right.key) (type : left.type = right.type)
    (optional : left.property.isOptional = right.property.isOptional) :
    left.Agrees right := by
  have annotation : left.annotation? = right.annotation? := by
    simp only [annotation?, optional, type]
  have initial : left.initial = right.initial := by
    simp only [Member.initial, annotation]
  constructor
  · exact name
  · exact key
  · exact type
  · exact annotation
  · exact initial
  · simp only [declaration, name, annotation, initial]
  · simp only [load, name, key]
  · simp only [store, name, key]

/-- A property and its sanitized copy become members that are written alike. -/
theorem agrees_of (sanitizer : Sanitizer) (property : Property) :
    (Member.mk sanitizer property).Agrees (.of sanitizer property) := by
  apply agrees_of_parts
  · exact (name_of sanitizer property).symm
  · exact (key_of sanitizer property).symm
  · exact (MemberType.of_actualType sanitizer property.actualType
      property.collection).symm
  · rfl

end Member

/-- For every table and brand that have a sanitizer, and every description: at each
place of the description, the property there and the one at the same place of the
sanitized description become members that are written alike. -/
theorem agrees_sanitize (sanitizer : Sanitizer) (api : ApiDescription) :
    List.Forall₂
      (fun before after =>
        List.Forall₂ (fun property copy =>
          (Member.mk sanitizer property).Agrees ⟨sanitizer, copy⟩)
          before.properties after.properties)
      api.datatypes (sanitizer.sanitize api).api.datatypes := by
  apply List.forall₂_map_right_iff.mpr
  apply List.forall₂_same.mpr
  intro datatype _
  apply List.forall₂_map_right_iff.mpr
  apply List.forall₂_same.mpr
  intro property _
  exact Member.agrees_of sanitizer property

end GodotSdk.Script
