import GodotSdk.Proofs.Naming.Frame
import GodotSdk.Proofs.Sdk.Acceptance
import Mathlib.Data.List.Nodup

/-!
# References

A property can refer to a datatype, and the scripts of an accepted API have a class for
every reference. It need not be the class of the datatype that was meant: the new name
of a reserved name may be in use already, and the check comes after renaming, when the
two cannot be told apart. References are kept exactly if no name is taken for another
one in this way.
-/

namespace GodotSdk

/-- The datatype of a description that a type refers to. -/
def ApiDescription.referred? (api : ApiDescription) (type : ActualType) :
    Option Datatype :=
  type.target?.bind fun target => api.datatypes.find? (·.name == target)

namespace Sanitizer

variable (sanitizer : Sanitizer)

/-! ## Names that become one -/

/-- One of two names is reserved, and the other one is its new name. -/
def Merges (first second : String) : Prop :=
  (sanitizer.isReserved first = true ∧ second = branded sanitizer.brand first) ∨
    (sanitizer.isReserved second = true ∧ first = branded sanitizer.brand second)

variable {sanitizer} {first second : String}

theorem Merges.symm (merges : sanitizer.Merges first second) :
    sanitizer.Merges second first :=
  Or.symm merges

/-- A reserved name and its new name get the same name. -/
theorem className_branded (reserved : sanitizer.isReserved first = true) :
    sanitizer.className (branded sanitizer.brand first) =
      sanitizer.className first := by
  have free : sanitizer.isReserved (branded sanitizer.brand first) = false :=
    ReservedNames.contains_branded sanitizer.closed reserved
  rw [sanitizer.className_of_free free, className, if_pos reserved]

theorem ne_branded (reserved : sanitizer.isReserved first = true) :
    first ≠ branded sanitizer.brand first := by
  intro same
  have free : sanitizer.isReserved (branded sanitizer.brand first) = false :=
    ReservedNames.contains_branded sanitizer.closed reserved
  rw [← same, reserved] at free
  cases free

theorem className_eq_of_merges (merges : sanitizer.Merges first second) :
    sanitizer.className first = sanitizer.className second := by
  rcases merges with ⟨reserved, rfl⟩ | ⟨reserved, rfl⟩
  · exact (className_branded reserved).symm
  · exact className_branded reserved

theorem ne_of_merges (merges : sanitizer.Merges first second) : first ≠ second := by
  rcases merges with ⟨reserved, rfl⟩ | ⟨reserved, rfl⟩
  · exact ne_branded reserved
  · exact (ne_branded reserved).symm

/-- Two names become one only if they are the same or one is the new name of the
other. -/
theorem className_eq_iff :
    sanitizer.className first = sanitizer.className second ↔
      first = second ∨ sanitizer.Merges first second := by
  constructor
  · intro same
    cases before : sanitizer.isReserved first <;>
      cases after : sanitizer.isReserved second
    · left
      simpa [className, before, after] using same
    · right; right
      exact ⟨after, by simpa [className, before, after] using same⟩
    · right; left
      exact ⟨before, by simpa [className, before, after] using same.symm⟩
    · left
      simpa [className, before, after, branded, String.append_right_inj] using same
  · rintro (rfl | merges)
    · rfl
    · exact className_eq_of_merges merges

/-- A class gets a name that is not reserved, and is no new name of another one, only if
it has it already. -/
theorem className_eq_iff_of_free {name target : String}
    (free : sanitizer.isReserved target = false)
    (unbranded : ∀ other, branded sanitizer.brand other = target →
      sanitizer.isReserved other = false) :
    sanitizer.className name = target ↔ name = target := by
  constructor
  · intro same
    rw [← sanitizer.className_of_free free, className_eq_iff] at same
    rcases same with same | ⟨reserved, named⟩ | ⟨reserved, _⟩
    · exact same
    · rw [unbranded name named.symm] at reserved
      cases reserved
    · rw [free] at reserved
      cases reserved
  · intro same
    rw [same, sanitizer.className_of_free free]

theorem className_mem_iff_of_free {targets : List String} {name : String}
    (free : ∀ target ∈ targets, sanitizer.isReserved target = false)
    (unbranded : ∀ target ∈ targets, ∀ other, branded sanitizer.brand other = target →
      sanitizer.isReserved other = false) : sanitizer.className name ∈ targets ↔
        name ∈ targets := by
  constructor
  · intro member
    rwa [(className_eq_iff_of_free (free _ member) (unbranded _ member)).mp rfl]
  · intro member
    rwa [sanitizer.className_of_free (free name member)]

/-! ## What references refer to -/

variable (sanitizer)

/-- Every reference of a description has the exact name of a datatype, and its sanitized
copy refers to the sanitized form of that datatype. -/
def KeepsReferences (api : ApiDescription) : Prop :=
  ∀ datatype ∈ api.datatypes, ∀ property ∈ datatype.properties,
    ∀ target ∈ property.actualType.target?,
    ∃ owner ∈ api.datatypes, owner.name = target ∧
      (sanitizer.sanitize api).api.referred? (sanitizer.property property).actualType =
        some (sanitizer.datatype owner)

/-- Some reference of a description and some datatype of another name get the same
name. -/
def CapturesReference (api : ApiDescription) : Prop :=
  ∃ datatype ∈ api.datatypes, ∃ property ∈ datatype.properties,
    ∃ target ∈ property.actualType.target?,
    ∃ owner ∈ api.datatypes, sanitizer.Merges target owner.name

instance (first second : String) : Decidable (sanitizer.Merges first second) :=
  inferInstanceAs (Decidable (_ ∨ _))

instance (api : ApiDescription) : Decidable (sanitizer.CapturesReference api) :=
  inferInstanceAs (Decidable (∃ datatype ∈ api.datatypes, _))

end Sanitizer

/-- Among datatypes of different names, each is found by its name. -/
theorem find?_name_of_mem {datatypes : List Datatype}
    (distinct : (datatypes.map (·.name)).Nodup) {datatype : Datatype}
    (member : datatype ∈ datatypes) :
    datatypes.find? (·.name == datatype.name) = some datatype := by
  induction datatypes with
  | nil => cases member
  | cons first rest ih =>
      rw [List.map_cons, List.nodup_cons] at distinct
      rcases List.mem_cons.mp member with rfl | member
      · simp
      · have different : datatype.name ≠ first.name :=
          ne_of_mem_of_not_mem (List.mem_map_of_mem member) distinct.1
        rw [List.find?_cons_of_neg (by simpa using different.symm)]
        exact ih distinct.2 member

namespace Sdk

variable {sdk : Sdk} {api : ApiDescription} {accepted : Sanitized}

section

variable {config : Config} {now : Timestamp} (made : Sdk.new config now = .ok sdk)
  {words : List String}
  (foreign : ReservedNames.engineClasses.Foreign words)

include made foreign

theorem isReserved_of_foreign {word name : String} (among : word ∈ words)
    (suffix : name.toList <:+ word.toList) :
    sdk.names.sanitizer.isReserved name = false := by
  rw [Sanitizer.isReserved, reserved_of_new made]
  exact ReservedNames.contains_eq_false_of_suffix foreign among suffix

/-- No class gets one of such words for a name by sanitizing. -/
theorem className_mem_iff_of_foreign {name : String} :
    sdk.names.sanitizer.className name ∈ words ↔ name ∈ words := by
  apply Sanitizer.className_mem_iff_of_free
  · intro word among
    exact isReserved_of_foreign made foreign among (List.suffix_refl _)
  · intro word among other same
    apply isReserved_of_foreign made foreign among
    rw [← same, branded, String.toList_append]
    exact List.suffix_append _ _

end

/-- Datatypes of an accepted API do not become one. -/
theorem eq_of_className_eq (accepts : sdk.accept api = .ok accepted)
    {left right : Datatype} (described : left ∈ api.datatypes)
    (also : right ∈ api.datatypes)
    (same : sdk.names.sanitizer.className left.name =
      sdk.names.sanitizer.className right.name) : left = right := by
  have acceptable := acceptable_of_accept accepts
  obtain rfl := eq_sanitize_of_accept accepts
  have distinct := acceptable.distinctClasses
  simp only [Sanitizer.sanitize, List.map_map] at distinct
  exact List.inj_on_of_nodup_map distinct described also same

/-- A reference of an accepted API gets the name that some datatype gets. -/
theorem exists_owner (accepts : sdk.accept api = .ok accepted) {datatype : Datatype}
    (described : datatype ∈ api.datatypes) {property : Property}
    (declared : property ∈ datatype.properties) {target : String}
    (refers : target ∈ property.actualType.target?) :
    ∃ owner ∈ api.datatypes, sdk.names.sanitizer.className owner.name =
      sdk.names.sanitizer.className target := by
  have acceptable := acceptable_of_accept accepts
  obtain rfl := eq_sanitize_of_accept accepts
  have inside := acceptable.datatypes _ (List.mem_map_of_mem described)
  have known := inside.references _ (List.mem_map_of_mem declared) _
    (sdk.names.sanitizer.actualType_property refers)
  simpa [Sanitizer.sanitize, Sanitizer.datatype] using known

/-- A reference that gets the name of a datatype refers to that datatype in the
scripts. -/
theorem referred?_of_className_eq (accepts : sdk.accept api = .ok accepted)
    {owner : Datatype} (described : owner ∈ api.datatypes) {property : Property}
    {target : String} (refers : target ∈ property.actualType.target?)
    (same : sdk.names.sanitizer.className owner.name =
      sdk.names.sanitizer.className target) :
    (sdk.names.sanitizer.sanitize api).api.referred?
      (sdk.names.sanitizer.property property).actualType =
      some (sdk.names.sanitizer.datatype owner) := by
  have acceptable := acceptable_of_accept accepts
  obtain rfl := eq_sanitize_of_accept accepts
  have member : sdk.names.sanitizer.datatype owner ∈
      (sdk.names.sanitizer.sanitize api).api.datatypes :=
    List.mem_map_of_mem described
  rw [sdk.names.sanitizer.actualType_property refers, ← same]
  exact find?_name_of_mem acceptable.distinctClasses member

/-- The references of an accepted API are kept exactly if none of them gets the name of
a datatype that it does not name. -/
theorem keepsReferences_iff_not_captures (accepts : sdk.accept api = .ok accepted) :
    sdk.names.sanitizer.KeepsReferences api ↔
      ¬ sdk.names.sanitizer.CapturesReference api := by
  constructor
  · rintro keeps ⟨datatype, described, property, declared, target, refers, other,
      among, merges⟩
    obtain ⟨owner, meant, rfl, _⟩ :=
      keeps datatype described property declared target refers
    -- The datatype of that name and the one that captures the reference would have one
    -- class.
    have same :=
      eq_of_className_eq accepts meant among (Sanitizer.className_eq_of_merges merges)
    exact Sanitizer.ne_of_merges merges (congrArg Datatype.name same)
  · intro free datatype described property declared target refers
    obtain ⟨owner, among, same⟩ := exists_owner accepts described declared refers
    refine ⟨owner, among, ?_, referred?_of_className_eq accepts among refers same⟩
    rcases Sanitizer.className_eq_iff.mp same with named | merges
    · exact named
    · exact absurd ⟨datatype, described, property, declared, target, refers, owner,
        among, merges.symm⟩ free

end Sdk

/-- A property that refers to a datatype, or to a collection of what the datatype
describes. -/
def Property.referring (name target : String) (collection : Option Collection) :
    Property :=
  ⟨name, .complex target, collection, false, none, none, none⟩

/-- References in several spellings, to datatypes that all have to be told apart. -/
def closeReferences : ApiDescription where
  name := "Cloud"
  datatypes := [
    ⟨"Node", [.referring "Parent" "Node" none, .referring "Twin" "nODE" (some .map)],
      none, none⟩, ⟨"nODE", [.referring "Item" "PlayFabItem" (some .array),
      .referring "Texture" "Texture" none], none, none⟩,
    ⟨"PlayFabItem", [], none, none⟩,
    ⟨"Texture", [], none, none⟩]
  calls := []
  errorList := []
  errors := .empty

theorem keepsReferences_iff_not_captures_closeReferences :
    Sdk.standard.accept closeReferences =
      .ok (Sdk.standard.names.sanitizer.sanitize closeReferences) ∧
      Sdk.standard.names.sanitizer.KeepsReferences closeReferences := by
  have accepts : Sdk.standard.accept closeReferences =
      .ok (Sdk.standard.names.sanitizer.sanitize closeReferences) :=
    Sdk.accept_standard (by decide +kernel)
  have free : ¬ Sdk.standard.names.sanitizer.CapturesReference closeReferences := by
    decide +kernel
  exact ⟨accepts, (Sdk.keepsReferences_iff_not_captures accepts).mpr free⟩

/-- A reference to a reserved name that nothing describes, and a datatype with the new
name of it. -/
def capturedReference : ApiDescription where
  name := "Cloud"
  datatypes := [
    ⟨"PlayFabNode", [], none, none⟩,
    ⟨"Holder", [.referring "Target" "Node" none], none, none⟩]
  calls := []
  errorList := []
  errors := .empty

/-- The description is accepted, although no datatype has the name that is referred
to. -/
theorem capturedReference_not_kept :
    Sdk.standard.accept capturedReference =
      .ok (Sdk.standard.names.sanitizer.sanitize capturedReference) ∧
      "Node" ∉ capturedReference.datatypes.map (·.name) ∧
      ¬ Sdk.standard.names.sanitizer.KeepsReferences capturedReference := by
  have accepts : Sdk.standard.accept capturedReference =
      .ok (Sdk.standard.names.sanitizer.sanitize capturedReference) :=
    Sdk.accept_standard (by decide)
  have absent : "Node" ∉ capturedReference.datatypes.map (·.name) := by decide
  refine ⟨accepts, absent, ?_⟩
  intro keeps
  obtain ⟨owner, described, named, _⟩ :=
    keeps capturedReference.datatypes[1] (List.getElem_mem _)
      (.referring "Target" "Node" none) (List.mem_cons_self ..) "Node" rfl
  apply absent
  rw [← named]
  exact List.mem_map_of_mem described

end GodotSdk
