import GodotSdk.Proofs.Schema.RoundTrip
import GodotSdk.Proofs.Sdk.Plan
import Mathlib.Data.List.Infix
import Mathlib.Tactic.TFAE

/-!
# Tags of primitive types

A type is written by its name, so a reference is told from a primitive type only as long
as its name is not a tag. In a description that was read no reference is named by a tag.
Sanitizing puts the brand before some references, and of all brands and all spellings of
engine classes there is one pair that makes a tag: `Date` and `Time`.
-/

namespace GodotSdk

namespace ActualType

/-- The names of the primitive types. -/
def tags : List String :=
  primitives.map name

/-- A reference is read as a reference exactly if its name is not a tag. -/
theorem isNamed_complex_iff {target : String} :
    (complex target).IsNamed ↔ target ∉ tags := by
  rw [IsNamed, name, ofName]
  constructor
  · intro same tag
    obtain ⟨type, primitive, rfl⟩ := List.mem_map.mp tag
    have found : (primitives.find? (·.name == type.name)).isSome = true :=
      List.find?_isSome.mpr ⟨type, primitive, beq_self_eq_true _⟩
    obtain ⟨first, first_eq⟩ := Option.isSome_iff_exists.mp found
    rw [first_eq, Option.getD_some] at same
    have listed : complex type.name ∈ primitives :=
      same ▸ List.mem_of_find?_eq_some first_eq
    simp [primitives] at listed
  · intro free
    have missing : primitives.find? (·.name == target) = none := by
      rw [List.find?_eq_none]
      intro type primitive same
      exact free (List.mem_map.mpr ⟨type, primitive, eq_of_beq same⟩)
    rw [missing, Option.getD_none]

theorem isNamed_iff {type : ActualType} :
    type.IsNamed ↔ ∀ target, type = .complex target → target ∉ tags := by
  cases type with
  | complex target =>
      rw [isNamed_complex_iff]
      exact ⟨fun free _ same => complex.inj same ▸ free, fun free => free target rfl⟩
  | _ => exact iff_of_true rfl nofun

end ActualType

open ActualType (tags)

namespace ReservedNames

/-- Of the proper ends of tags, only one is the name of an engine class in any
spelling. -/
theorem eq_time_of_end_of_tag {tag : String} {first : Char} {before : List Char}
    {name : String} (isTag : tag ∈ tags)
    (split : tag.toList = first :: (before ++ name.toList))
    (reserved : engineClasses.contains name = true) :
    tag = "DateTime" ∧ name = "Time" := by
  have ends : ∀ tag ∈ tags, ∀ ending ∈ tag.toList.tail.tails,
      Text.fold ending ∈ engineFoldings →
      tag = "DateTime" ∧ ending = ['T', 'i', 'm', 'e'] := by
    decide +kernel
  have ending : name.toList ∈ tag.toList.tail.tails := by
    rw [split, List.tail_cons, List.mem_tails]
    exact List.suffix_append before name.toList
  rw [contains_iff_mem_foldings, foldings_engineClasses] at reserved
  obtain ⟨whole, chars⟩ := ends tag isTag name.toList ending reserved
  have read : String.ofList name.toList = String.ofList ['T', 'i', 'm', 'e'] :=
    congrArg String.ofList chars
  rw [String.ofList_toList] at read
  exact ⟨whole, read⟩

theorem branded_mem_tags_iff {brand name : String} (brands : brand ≠ "")
    (reserved : engineClasses.contains name = true) :
    branded brand name ∈ tags ↔ brand = "Date" ∧ name = "Time" := by
  constructor
  · intro isTag
    cases chars : brand.toList with
    | nil => exact absurd (String.toList_eq_nil_iff.mp chars) brands
    | cons first before =>
        have split : (branded brand name).toList =
            first :: (before ++ name.toList) := by
          rw [branded, String.toList_append, chars, List.cons_append]
        obtain ⟨whole, rfl⟩ := eq_time_of_end_of_tag isTag split reserved
        have parts : brand ++ "Time" = "Date" ++ "Time" := whole
        exact ⟨String.append_left_inj _ |>.mp parts, rfl⟩
  · rintro ⟨rfl, rfl⟩
    decide

end ReservedNames

namespace Sdk

variable {config : Config} {now : Timestamp} {sdk : Sdk} {api : ApiDescription}

theorem types_sanitize (sanitizer : Sanitizer) (api : ApiDescription) :
    (sanitizer.sanitize api).api.types = api.types.map sanitizer.actualType := by
  simp [ApiDescription.types, Sanitizer.sanitize, Sanitizer.datatype,
    Sanitizer.property, List.flatMap_map, List.map_flatMap, Function.comp_def]

/-- Sanitizing a type keeps it apart from the tags, with one exception. -/
theorem isNamed_actualType_iff (made : Sdk.new config now = .ok sdk) {type : ActualType}
    (named : type.IsNamed) :
    (sdk.names.sanitizer.actualType type).IsNamed ↔
      ¬ (sdk.names.brand = "Date" ∧ type = .complex "Time") := by
  cases type with
  | complex target =>
      simp only [Sanitizer.actualType, ActualType.isNamed_complex_iff,
        Sanitizer.className, Sanitizer.isReserved, reserved_of_new made,
        ActualType.complex.injEq, not_iff_not]
      split
      · next reserved =>
          have brands : sdk.names.brand ≠ "" :=
            Text.ne_empty_of_isIdentifier (isIdentifier_brand_of_new made)
          exact ReservedNames.branded_mem_tags_iff brands reserved
      · next free =>
          have kept := ActualType.isNamed_complex_iff.mp named
          refine iff_of_false kept fun time => free ?_
          rw [time.2]
          exact ReservedNames.contains_of_mem (by decide)
  | _ => exact iff_of_true named (by simp)

/-- For every brand that has an SDK and every description that was read: sanitizing
leaves each reference apart from all tags, so that each type is read again from its
name, unless the brand is `Date` and something refers to `Time`. -/
theorem referencesApart_tfae (made : Sdk.new config now = .ok sdk)
    (read : (∃ text, ApiDescription.ofJson text = .ok api) ∨
      ∃ text, ApiDescription.ofYaml text = .ok api) :
    [∀ type ∈ (sdk.names.sanitizer.sanitize api).api.types, ∀ target,
      type = .complex target → target ∉ tags,
      ∀ type ∈ (sdk.names.sanitizer.sanitize api).api.types,
        ActualType.ofName type.name = type,
      ¬ (sdk.names.brand = "Date" ∧ .complex "Time" ∈ api.types)].TFAE := by
  have named : ∀ type ∈ api.types, type.IsNamed := by
    rcases read with ⟨text, read⟩ | ⟨text, read⟩
    · exact isNamed_of_ofJson read
    · exact isNamed_of_ofYaml read
  tfae_have 1 ↔ 2 := forall₂_congr fun type _ => ActualType.isNamed_iff.symm
  tfae_have 2 ↔ 3 := by
    rw [types_sanitize, List.forall_mem_map]
    constructor
    · rintro kept ⟨brand, time⟩
      exact (isNamed_actualType_iff made (named _ time)).mp (kept _ time) ⟨brand, rfl⟩
    · intro apart type member
      apply (isNamed_actualType_iff made (named type member)).mpr
      rintro ⟨brand, rfl⟩
      exact apart ⟨brand, member⟩
  tfae_finish

/-- The SDK of the brand `Date`, whose files are generated in the summer of 2024. -/
def dated : Sdk :=
  ⟨⟨"Date", none, none, none⟩,
    ⟨⟨.engineClasses, "Date",
      ReservedNames.collision?_engineClasses_iff.mpr (by decide)⟩⟩,
    standard.now⟩

theorem new_dated : Sdk.new ⟨"Date", none, none, none⟩ standard.now = .ok dated := by
  refine new_eq_ok_iff.mpr ⟨by decide, dated.names.sanitizer, ?_, rfl⟩
  exact Sanitizer.new_eq_ok dated.names.sanitizer.closed

/-- A description in which a match refers to what tells its start. -/
def matchWith (start : String) : ApiDescription where
  name := "Cloud"
  datatypes := [⟨start, [], none, none⟩,
    ⟨"Match", [⟨"Start", .complex start, none, false, none, none, none⟩], none, none⟩]
  calls := []
  errorList := []
  errors := .empty

theorem exists_ofJson_matchWith (start : String) (free : start ∉ tags) :
    ∃ text, ApiDescription.ofJson text = .ok (matchWith start) := by
  refine ⟨_, ofJson_encodeDescription ?_
    (by simp [ApiDescription.deprecations, matchWith])⟩
  simpa [ApiDescription.types, matchWith] using ActualType.isNamed_complex_iff.mpr free

/-- Another spelling of `Time` does not make the tag. -/
theorem referencesApart_tfae_dated :
    Sdk.new ⟨"Date", none, none, none⟩ standard.now = .ok dated ∧
      (∃ text, ApiDescription.ofJson text = .ok (matchWith "time")) ∧
      (dated.names.sanitizer.sanitize (matchWith "time")).api.types =
        [.complex "Datetime"] ∧
      ∀ type ∈ (dated.names.sanitizer.sanitize (matchWith "time")).api.types,
        ActualType.ofName type.name = type := by
  have read := exists_ofJson_matchWith "time" (by decide)
  have apart := (referencesApart_tfae new_dated (.inl read)).out 1 2
  exact ⟨new_dated, read, by decide, apart.mpr (by decide)⟩

/-- The reference to `Time` is renamed to a reference that is written like a point in
time, and read again as one. -/
theorem dated_time_not_apart :
    Sdk.new ⟨"Date", none, none, none⟩ standard.now = .ok dated ∧
      (∃ text, ApiDescription.ofJson text = .ok (matchWith "Time")) ∧
      (dated.names.sanitizer.sanitize (matchWith "Time")).api.types =
        [.complex "DateTime"] ∧
      ActualType.ofName (ActualType.complex "DateTime").name = .dateTime :=
  ⟨new_dated, exists_ofJson_matchWith "Time" (by decide), by decide, by decide⟩

end Sdk

end GodotSdk
