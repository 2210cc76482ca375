import GodotSdk.Proofs.Sdk.Plan

/-!
# Brands

Which brands have an SDK. The engine classes have a sanitizer for every brand but the
empty one, which is no identifier anyway. So the check for collisions turns down nothing
that is an identifier.
-/

namespace GodotSdk

theorem SdkNames.exists_new_iff {brand : String} :
    (∃ names, new brand = .ok names) ↔ brand ≠ "" := by
  rw [← ReservedNames.collision?_engineClasses_iff]
  constructor
  · rintro ⟨names, made⟩
    obtain ⟨sanitizer, sanitizes, _⟩ := bind_eq_ok_iff.mp made
    exact Sanitizer.collision?_eq_none_of_new sanitizes
  · intro closed
    exact ⟨⟨⟨.engineClasses, brand, closed⟩⟩,
      bind_eq_ok_iff.mpr ⟨_, Sanitizer.new_eq_ok closed, rfl⟩⟩

theorem SdkNames.exists_error_iff {brand : String} :
    (∃ error, new brand = .error error) ↔ brand = "" := by
  have made := @exists_new_iff brand
  cases outcome : new brand with
  | ok names =>
      have brands := made.mp ⟨names, outcome⟩
      simp [brands]
  | error error =>
      have empty : brand = "" := by simpa [outcome] using made
      simp [empty]

namespace Sdk

/-- Every identifier is the brand of an SDK, and whatever is no identifier is turned
down for that. No identifier collides with the classes of the engine, and of all texts
the names of an SDK cannot be made for the empty one only. -/
theorem identifiers_are_brands (config : Config) (now : Timestamp) :
    ((∃ sdk, Sdk.new config now = .ok sdk) ↔ Text.isIdentifier config.brand = true) ∧
      (∀ error, Sdk.new config now = .error error →
        error = .invalidBrand config.brand) ∧ (∀ brand, Text.isIdentifier brand = true →
        ∀ entry ∈ ReservedNames.engineClasses.names,
        ReservedNames.engineClasses.collisionAt? brand entry = none) ∧
      ∀ brand, (∃ error, SdkNames.new brand = .error error) ↔ brand = "" := by
  have made (identifier : Text.isIdentifier config.brand = true) : ∃ sdk,
      Sdk.new config now = .ok sdk := by
    obtain ⟨names, named⟩ :=
      SdkNames.exists_new_iff.mpr (Text.ne_empty_of_isIdentifier identifier)
    refine ⟨⟨config, names, now⟩, ?_⟩
    rw [Sdk.new, if_pos identifier, named]
    rfl
  refine ⟨⟨?_, made⟩, ?_, ?_, fun brand => SdkNames.exists_error_iff⟩
  · rintro ⟨sdk, new⟩
    exact (new_eq_ok_iff.mp new).1
  · intro error failed
    by_cases identifier : Text.isIdentifier config.brand = true
    · obtain ⟨sdk, new⟩ := made identifier
      rw [new] at failed
      cases failed
    · rw [Sdk.new, if_neg identifier] at failed
      exact (Except.error.inj failed).symm
  · intro brand identifier entry member
    exact ReservedNames.collisionAt?_engineClasses
      (Text.ne_empty_of_isIdentifier identifier) member

end Sdk

end GodotSdk
