import GodotSdk.Naming.Sanitized
import GodotSdk.Proofs.Naming.EngineClasses

/-!
# Sanitized descriptions stay as they are

A description is free of a table if nothing in it has a reserved name. Sanitizing makes
every description free, and leaves a free one alone, so it does all of its work at once.
-/

namespace GodotSdk

/-- Neither the name of a property nor the datatype it refers to is reserved. -/
structure Property.Free (table : ReservedNames) (property : Property) : Prop where
  name : table.contains property.name = false
  target : ∀ target, property.actualType = .complex target →
    table.contains target = false

/-- No name in a datatype is reserved. -/
structure Datatype.Free (table : ReservedNames) (datatype : Datatype) : Prop where
  name : table.contains datatype.name = false
  properties : ∀ property ∈ datatype.properties, property.Free table

/-- No name in a description is reserved. -/
def ApiDescription.Free (table : ReservedNames) (api : ApiDescription) : Prop :=
  ∀ datatype ∈ api.datatypes, datatype.Free table

namespace Sanitizer

variable (sanitizer : Sanitizer)

/-! ## Sanitizing makes a description free -/

theorem actualType_eq_complex {type : ActualType} {target : String}
    (complex : sanitizer.actualType type = .complex target) :
    ∃ before, sanitizer.className before = target := by
  cases type with
  | complex before =>
      simp only [actualType, ActualType.complex.injEq] at complex
      exact ⟨before, complex⟩
  | _ => simp [actualType] at complex

theorem property_free (property : Property) :
    (sanitizer.property property).Free sanitizer.reserved where
  name := sanitizer.isReserved_propertyName property.name
  target := by
    intro target complex
    obtain ⟨before, rfl⟩ := sanitizer.actualType_eq_complex complex
    exact sanitizer.isReserved_className before

theorem datatype_free (datatype : Datatype) :
    (sanitizer.datatype datatype).Free sanitizer.reserved where
  name := sanitizer.isReserved_className datatype.name
  properties := by
    intro property member
    obtain ⟨before, _, rfl⟩ := List.mem_map.mp member
    exact sanitizer.property_free before

theorem sanitize_free (api : ApiDescription) :
    (sanitizer.sanitize api).api.Free sanitizer.reserved := by
  intro datatype member
  obtain ⟨before, _, rfl⟩ := List.mem_map.mp member
  exact sanitizer.datatype_free before

/-! ## Sanitizing leaves a free description alone -/

theorem actualType_of_free {type : ActualType}
    (free : ∀ target, type = .complex target → sanitizer.isReserved target = false) :
    sanitizer.actualType type = type := by
  cases type with
  | complex target => simp [actualType, sanitizer.className_of_free (free target rfl)]
  | _ => rfl

variable {sanitizer}

theorem property_of_free {property : Property}
    (free : property.Free sanitizer.reserved) :
    sanitizer.property property = property := by
  have unreserved : sanitizer.isReserved property.name = false := free.name
  simp [Sanitizer.property, sanitizer.propertyName_of_free unreserved,
    sanitizer.actualType_of_free free.target, unreserved]

theorem propertyRenames_of_free {property : Property}
    (free : property.Free sanitizer.reserved)
    (owner : String) : sanitizer.propertyRenames owner property = [] := by
  have unreserved : sanitizer.isReserved property.name = false := free.name
  cases type : property.actualType with
  | complex target =>
      have targetUnreserved : sanitizer.isReserved target = false :=
        free.target target type
      simp [propertyRenames, type, unreserved, targetUnreserved]
  | _ => simp [propertyRenames, type, unreserved]

theorem datatype_of_free {datatype : Datatype}
    (free : datatype.Free sanitizer.reserved) :
    sanitizer.datatype datatype = datatype := by
  have same : datatype.properties.map sanitizer.property = datatype.properties := by
    rw [List.map_congr_left fun property member =>
      property_of_free (free.properties property member)]
    exact List.map_id' datatype.properties
  simp [Sanitizer.datatype, sanitizer.className_of_free free.name, same]

theorem datatypeRenames_of_free {datatype : Datatype}
    (free : datatype.Free sanitizer.reserved) :
    sanitizer.datatypeRenames datatype = [] := by
  have unreserved : sanitizer.isReserved datatype.name = false := free.name
  simp only [datatypeRenames, unreserved, List.append_eq_nil_iff,
    List.flatMap_eq_nil_iff]
  exact ⟨rfl, fun property member =>
    propertyRenames_of_free (free.properties property member) _⟩

theorem sanitize_of_free {api : ApiDescription} (free : api.Free sanitizer.reserved) :
    sanitizer.sanitize api = ⟨api, []⟩ := by
  have same : api.datatypes.map sanitizer.datatype = api.datatypes := by
    rw [List.map_congr_left fun datatype member =>
      datatype_of_free (free datatype member)]
    exact List.map_id' api.datatypes
  have silent : api.datatypes.flatMap sanitizer.datatypeRenames = [] := by
    rw [List.flatMap_eq_nil_iff]
    exact fun datatype member => datatypeRenames_of_free (free datatype member)
  simp only [sanitize, same, silent]

/-- Whatever the table and the brand, a sanitizer that exists leaves no reserved name in
a description, and finds nothing to rename in what it made. -/
theorem sanitize_free_of_new {table : ReservedNames} {brand : String}
    {sanitizer : Sanitizer} (made : new table brand = .ok sanitizer)
    (api : ApiDescription) :
    (sanitizer.sanitize api).api.Free table ∧
      sanitizer.sanitize (sanitizer.sanitize api).api =
        ⟨(sanitizer.sanitize api).api, []⟩ := by
  have free := sanitizer.sanitize_free api
  have unchanged := sanitize_of_free free
  rw [reserved_of_new made] at free
  exact ⟨free, unchanged⟩

/-- Reserved names in other cases, with a ligature and with a long s. -/
def unusualSpellings : ApiDescription where
  name := "Client"
  datatypes := [
    ⟨"nODE", [⟨"ﬁle", .complex "oſ", some .array, false, none, none, none⟩],
      none, none⟩, ⟨"OS", [], none, none⟩]
  calls := []
  errorList := []
  errors := .empty

theorem sanitize_free_of_new_unusualSpellings :
    new .engineClasses "PlayFab" = .ok standard ∧
      (standard.sanitize unusualSpellings).api.Free .engineClasses ∧
      standard.sanitize (standard.sanitize unusualSpellings).api =
        ⟨(standard.sanitize unusualSpellings).api, []⟩ :=
  ⟨new_standard, sanitize_free_of_new new_standard unusualSpellings⟩

end Sanitizer

end GodotSdk
