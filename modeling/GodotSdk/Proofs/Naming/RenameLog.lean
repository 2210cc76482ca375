import GodotSdk.Proofs.Naming.Frame
import GodotSdk.Proofs.Naming.Idempotence

/-!
# The log of renames

A description and its sanitized copy have the same positions, which can be passed side
by side: the name of each datatype, and then the name and the type of each of its
properties. The log has one entry for each position at which the two differ, in this
order, and so it is empty only if nothing differs at all.
-/

namespace GodotSdk

namespace Rename

/-- The text that was replaced. -/
def before : Rename → String
  | .datatype before _ => before
  | .property _ before _ => before
  | .reference _ _ before _ => before

/-- The text that stands in its place. -/
def after : Rename → String
  | .datatype _ after => after
  | .property _ _ after => after
  | .reference _ _ _ after => after

/-- Whether the two texts differ. -/
def differs (rename : Rename) : Bool :=
  rename.before != rename.after

end Rename

/-! ## Positions side by side -/

/-- The positions of a property of the class `owner` and its copy. Each is given as its
entry in a log would be. -/
def Property.positions (owner : String) (before after : Property) : List Rename :=
  [.property owner before.name after.name,
    .reference owner after.name before.actualType.name after.actualType.name]

/-- The positions of a datatype and its copy. -/
def Datatype.positions (before after : Datatype) : List Rename :=
  .datatype before.name after.name ::
    (before.properties.zip after.properties).flatMap fun pair =>
      pair.1.positions after.name pair.2

/-- The positions of a description and its copy, in the order of the description. -/
def ApiDescription.positions (before after : ApiDescription) : List Rename :=
  (before.datatypes.zip after.datatypes).flatMap fun pair => pair.1.positions pair.2

/-- A log tells how a description and its copy differ. Neither of them has a position
that the other one lacks, and the log has an entry for each position at which they
differ and no other. -/
structure ApiDescription.LoggedBy (before after : ApiDescription) (log : List Rename) :
    Prop where
  aligned : after.datatypes.map (·.properties.length) =
    before.datatypes.map (·.properties.length)
  entries : log = (before.positions after).filter Rename.differs
  different : ∀ rename ∈ log, rename.before ≠ rename.after
  silent : log = [] ↔ after = before

namespace Sanitizer

variable (sanitizer : Sanitizer)

/-! ## Positions that differ -/

theorem bne_className (name : String) :
    (name != sanitizer.className name) = sanitizer.isReserved name := by
  rw [Bool.eq_iff_iff, bne_iff_ne, ne_comm, ne_eq, sanitizer.className_eq_self_iff,
    Bool.not_eq_false]

theorem bne_propertyName (name : String) :
    (name != sanitizer.propertyName name) = sanitizer.isReserved name := by
  rw [Bool.eq_iff_iff, bne_iff_ne, ne_comm, ne_eq, sanitizer.propertyName_eq_self_iff,
    Bool.not_eq_false]

/-- The log of a property has an entry for its name and one for its type, as far as
these differ. -/
theorem propertyRenames_eq (owner : String) (property : Property) :
    sanitizer.propertyRenames owner property =
      (property.positions owner (sanitizer.property property)).filter Rename.differs :=
  by
  have name : (Rename.property owner property.name
      (sanitizer.property property).name).differs =
      sanitizer.isReserved property.name := sanitizer.bne_propertyName property.name
  rw [propertyRenames, Property.positions, List.filter_cons, name,
    List.filter_singleton]
  cases type : property.actualType with
  | complex target =>
      have reference (member : String) :
          (Rename.reference owner member target (sanitizer.className target)).differs =
          sanitizer.isReserved target := sanitizer.bne_className target
      cases sanitizer.isReserved property.name <;>
        simp [Sanitizer.property, type, actualType, ActualType.name, reference]
  | _ =>
      cases sanitizer.isReserved property.name <;>
        simp [Sanitizer.property, type, actualType, Rename.differs, Rename.before,
          Rename.after]

theorem positions_datatype (datatype : Datatype) :
    datatype.positions (sanitizer.datatype datatype) =
      .datatype datatype.name (sanitizer.className datatype.name) ::
        datatype.properties.flatMap fun property =>
        property.positions (sanitizer.className datatype.name)
          (sanitizer.property property) :=
  congrArg _ (flatMap_zip_map_self sanitizer.property _ datatype.properties)

theorem datatypeRenames_eq (datatype : Datatype) :
    sanitizer.datatypeRenames datatype =
      (datatype.positions (sanitizer.datatype datatype)).filter Rename.differs := by
  have name : (Rename.datatype datatype.name
      (sanitizer.className datatype.name)).differs =
      sanitizer.isReserved datatype.name := sanitizer.bne_className datatype.name
  rw [positions_datatype, List.filter_cons, name, List.filter_flatMap, datatypeRenames]
  simp only [← propertyRenames_eq]
  cases sanitizer.isReserved datatype.name <;> rfl

theorem renames_sanitize (api : ApiDescription) :
    (sanitizer.sanitize api).renames =
      (api.positions (sanitizer.sanitize api).api).filter Rename.differs := by
  have positions : api.positions (sanitizer.sanitize api).api =
      api.datatypes.flatMap fun datatype =>
        datatype.positions (sanitizer.datatype datatype) :=
    flatMap_zip_map_self sanitizer.datatype Datatype.positions api.datatypes
  rw [positions, List.filter_flatMap]
  simp only [← datatypeRenames_eq]
  rfl

/-! ## Silence -/

variable {sanitizer}

theorem property_free_of_silent {owner : String} {property : Property}
    (silent : sanitizer.propertyRenames owner property = []) :
    property.Free sanitizer.reserved := by
  simp only [propertyRenames, List.append_eq_nil_iff, ite_eq_right_iff, reduceCtorEq,
    imp_false, Bool.not_eq_true] at silent
  constructor
  · exact silent.1
  · intro target refers
    have unreserved : sanitizer.isReserved target = false := by
      simpa [refers] using silent.2
    exact unreserved

theorem datatype_free_of_silent {datatype : Datatype}
    (silent : sanitizer.datatypeRenames datatype = []) :
    datatype.Free sanitizer.reserved := by
  simp only [datatypeRenames, List.append_eq_nil_iff, ite_eq_right_iff, reduceCtorEq,
    imp_false, Bool.not_eq_true, List.flatMap_eq_nil_iff] at silent
  constructor
  · exact silent.1
  · intro property member
    exact property_free_of_silent (silent.2 property member)

/-- A log without entries means that nothing was changed. -/
theorem renames_eq_nil_iff {api : ApiDescription} :
    (sanitizer.sanitize api).renames = [] ↔ (sanitizer.sanitize api).api = api := by
  constructor
  · intro silent
    have free : api.Free sanitizer.reserved := fun datatype member =>
      datatype_free_of_silent (List.flatMap_eq_nil_iff.mp silent datatype member)
    rw [sanitize_of_free free]
  · intro same
    -- A description that sanitizing keeps is free, since sanitized ones are.
    have free := sanitizer.sanitize_free api
    rw [same] at free
    rw [sanitize_of_free free]

variable (sanitizer)

/-- The renames of a sanitized description are the log of how it differs from the one it
was made from. -/
theorem loggedBy_renames (api : ApiDescription) :
    api.LoggedBy (sanitizer.sanitize api).api (sanitizer.sanitize api).renames where
  aligned := by
    simp [sanitize, Sanitizer.datatype]
  entries := sanitizer.renames_sanitize api
  different := by
    intro rename member
    rw [renames_sanitize] at member
    exact bne_iff_ne.mp (List.mem_filter.mp member).2
  silent := renames_eq_nil_iff

/-- The class and the property of an entry are named as they are after renaming. -/
example : (standard.sanitize unusualSpellings).renames = [
    .datatype "nODE" "PlayFabnODE", .property "PlayFabnODE" "ﬁle" "ﬁle_",
    .reference "PlayFabnODE" "ﬁle_" "oſ" "PlayFaboſ", .datatype "OS" "PlayFabOS"] := by
      decide

end Sanitizer

end GodotSdk
