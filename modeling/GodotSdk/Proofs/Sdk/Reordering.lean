import GodotSdk.Proofs.Naming.Frame
import GodotSdk.Proofs.Sdk.References
import Mathlib.Data.List.Perm.Basic

/-!
# Reordered descriptions

Each check of a description remembers the names that came before, and a reference may
come before its datatype. All the same, what is accepted can be told without an order:
it is a condition on the names that are declared side by side and on the references, so
it holds for a description in whatever order it is written.
-/

namespace GodotSdk

/-- The same datatype with its properties in another order. -/
structure Datatype.Reordered (left right : Datatype) : Prop where
  name : left.name = right.name
  properties : left.properties.Perm right.properties
  description : left.description = right.description
  deprecation : left.deprecation = right.deprecation

/-- The same description with its datatypes, the properties of each of them, and its
calls in another order. -/
structure ApiDescription.Reordered (left right : ApiDescription) : Prop where
  name : left.name = right.name
  datatypes : ∃ middle, List.Forall₂ Datatype.Reordered left.datatypes middle ∧
    middle.Perm right.datatypes
  calls : left.calls.Perm right.calls
  errorList : left.errorList = right.errorList
  errors : left.errors = right.errors

namespace Datatype.Reordered

variable {left right : Datatype}

theorem symm (reordered : left.Reordered right) : right.Reordered left where
  name := reordered.name.symm
  properties := reordered.properties.symm
  description := reordered.description.symm
  deprecation := reordered.deprecation.symm

theorem acceptable (reordered : left.Reordered right) {classes others : List String}
    (same : classes.Perm others)
    (acceptable : left.Acceptable classes) : right.Acceptable others where
  identifiers := by
    intro property member
    exact acceptable.identifiers property (reordered.properties.mem_iff.mpr member)
  distinct := (reordered.properties.map _).nodup_iff.mp acceptable.distinct
  references := by
    intro property member target refers
    have known :=
      acceptable.references property (reordered.properties.mem_iff.mpr member)
        target refers
    exact same.mem_iff.mp known

theorem sanitize (sanitizer : Sanitizer) (reordered : left.Reordered right) :
    (sanitizer.datatype left).Reordered (sanitizer.datatype right) where
  name := congrArg sanitizer.className reordered.name
  properties := reordered.properties.map sanitizer.property
  description := reordered.description
  deprecation := reordered.deprecation

end Datatype.Reordered

namespace ApiDescription.Reordered

variable {left right : ApiDescription}

theorem symm (reordered : left.Reordered right) : right.Reordered left where
  name := reordered.name.symm
  datatypes := by
    obtain ⟨middle, inside, perm⟩ := reordered.datatypes
    -- Going back, the datatypes change their places first and then their properties, so
    -- the two steps are exchanged.
    have backwards : List.Forall₂ Datatype.Reordered middle left.datatypes :=
      inside.flip.imp fun _ _ => Datatype.Reordered.symm
    exact List.perm_comp_forall₂ perm.symm backwards
  calls := reordered.calls.symm
  errorList := reordered.errorList.symm
  errors := reordered.errors.symm

/-- Reordering keeps the names of the datatypes, but for their order. -/
theorem names (reordered : left.Reordered right) :
    (left.datatypes.map (·.name)).Perm (right.datatypes.map (·.name)) := by
  obtain ⟨middle, inside, perm⟩ := reordered.datatypes
  have same : middle.map (·.name) = left.datatypes.map (·.name) :=
    map_eq_of_forall₂ inside fun _ _ reordered => reordered.name.symm
  rw [← same]
  exact perm.map _

theorem exists_origin (reordered : left.Reordered right) {datatype : Datatype}
    (member : datatype ∈ right.datatypes) :
    ∃ origin ∈ left.datatypes, origin.Reordered datatype := by
  obtain ⟨middle, inside, perm⟩ := reordered.datatypes
  exact exists_related_of_mem inside (perm.mem_iff.mpr member)

theorem acceptable (reordered : left.Reordered right) (acceptable : left.Acceptable) :
    right.Acceptable where
  identifier := reordered.name ▸ acceptable.identifier
  classIdentifiers := by
    intro datatype member
    obtain ⟨origin, described, same⟩ := reordered.exists_origin member
    exact same.name ▸ acceptable.classIdentifiers origin described
  distinctClasses := reordered.names.nodup_iff.mp acceptable.distinctClasses
  datatypes := by
    intro datatype member
    obtain ⟨origin, described, same⟩ := reordered.exists_origin member
    exact same.acceptable reordered.names (acceptable.datatypes origin described)
  methodIdentifiers := by
    intro call member
    exact acceptable.methodIdentifiers call (reordered.calls.mem_iff.mpr member)
  distinctMethods := (reordered.calls.map _).nodup_iff.mp acceptable.distinctMethods

theorem acceptable_iff (reordered : left.Reordered right) :
    left.Acceptable ↔ right.Acceptable :=
  ⟨reordered.acceptable, reordered.symm.acceptable⟩

/-- Sanitizing does not depend on the order. -/
theorem sanitize (sanitizer : Sanitizer) (reordered : left.Reordered right) :
    (sanitizer.sanitize left).api.Reordered (sanitizer.sanitize right).api where
  name := reordered.name
  datatypes := by
    obtain ⟨middle, inside, perm⟩ := reordered.datatypes
    refine ⟨middle.map sanitizer.datatype, ?_, perm.map _⟩
    rw [Sanitizer.sanitize, List.forall₂_map_left_iff, List.forall₂_map_right_iff]
    exact inside.imp fun _ _ => Datatype.Reordered.sanitize sanitizer
  calls := reordered.calls
  errorList := reordered.errorList
  errors := reordered.errors

end ApiDescription.Reordered

namespace Sdk

variable {sdk : Sdk} {api : ApiDescription}

theorem exists_accept_iff :
    (∃ accepted, sdk.accept api = .ok accepted) ↔
      (sdk.names.sanitizer.sanitize api).api.Acceptable := by
  simp only [accept_eq_ok_iff, exists_eq_left, ApiDescription.check_eq_ok_iff]

/-- An API is accepted exactly if its sanitized description is acceptable. The order of
its datatypes, of the properties of a datatype, and of its calls makes no difference. -/
theorem accepts_iff_acceptable_in_any_order (sdk : Sdk) (api : ApiDescription) :
    ((∃ accepted, sdk.accept api = .ok accepted) ↔
      (sdk.names.sanitizer.sanitize api).api.Acceptable) ∧
      ∀ other, api.Reordered other →
        ((∃ accepted, sdk.accept api = .ok accepted) ↔
          ∃ accepted, sdk.accept other = .ok accepted) := by
  refine ⟨exists_accept_iff, fun other reordered => ?_⟩
  rw [exists_accept_iff, exists_accept_iff]
  exact (reordered.sanitize sdk.names.sanitizer).acceptable_iff

end Sdk

/-- Datatypes that refer to each other and to themselves, before they are declared and
after. -/
def referringAhead : ApiDescription where
  name := "Cloud"
  datatypes := [
    ⟨"Holder", [.referring "Node" "Node" (some .array),
      .referring "Owner" "Holder" none], none, none⟩,
    ⟨"Node", [.referring "Holder" "Holder" (some .map)], none, none⟩]
  calls := [⟨"GetNode", "/Cloud/GetNode", none, some "Node", .entityToken, none, none⟩,
    ⟨"Get", "/Cloud/Get", none, none, .anonymous, none, none⟩]
  errorList := ["NotFound"]
  errors := .empty

/-- The same datatypes, properties and calls from the last to the first. -/
def referringBack : ApiDescription where
  name := "Cloud"
  datatypes := [
    ⟨"Node", [.referring "Holder" "Holder" (some .map)], none, none⟩,
    ⟨"Holder", [.referring "Owner" "Holder" none,
      .referring "Node" "Node" (some .array)], none, none⟩]
  calls := [⟨"Get", "/Cloud/Get", none, none, .anonymous, none, none⟩,
    ⟨"GetNode", "/Cloud/GetNode", none, some "Node", .entityToken, none, none⟩]
  errorList := ["NotFound"]
  errors := .empty

theorem reordered_referringAhead : referringAhead.Reordered referringBack where
  name := rfl
  datatypes := ⟨referringBack.datatypes.reverse,
    .cons ⟨rfl, .swap .., rfl, rfl⟩ (.cons ⟨rfl, .refl _, rfl, rfl⟩ .nil), .swap ..⟩
  calls := .swap ..
  errorList := rfl
  errors := rfl

theorem accepts_iff_acceptable_in_any_order_referringAhead :
    referringAhead.Reordered referringBack ∧
      (Sdk.standard.names.sanitizer.sanitize referringAhead).api.Acceptable ∧
      ∃ accepted, Sdk.standard.accept referringBack = .ok accepted := by
  have acceptable :
      (Sdk.standard.names.sanitizer.sanitize referringAhead).api.Acceptable :=
    Sdk.acceptable_of_accept (Sdk.accept_standard (by decide))
  obtain ⟨accepts, anyOrder⟩ :=
    Sdk.accepts_iff_acceptable_in_any_order Sdk.standard referringAhead
  exact ⟨reordered_referringAhead, acceptable,
    (anyOrder referringBack reordered_referringAhead).mp (accepts.mpr acceptable)⟩

end GodotSdk
