import GodotSdk.Proofs.Failures
import GodotSdk.Proofs.Session.Objects
import GodotSdk.Sdk.Files

/-!
# Plans

A list of APIs has a plan if each of them is accepted. Otherwise it is rejected as the
first one that is not accepted, whatever comes after.
-/

namespace GodotSdk.Sdk

variable {sdk : Sdk} {api : ApiDescription} {accepted : Sanitized}
  {apis : List ApiDescription}

theorem accept_eq_ok_iff :
    sdk.accept api = .ok accepted ↔
      accepted = sdk.names.sanitizer.sanitize api ∧ accepted.api.check = .ok () := by
  simp only [accept, bind, Except.bind, pure, Except.pure]
  cases checked : (sdk.names.sanitizer.sanitize api).api.check with
  | error rejection =>
      simp only [reduceCtorEq, false_iff, not_and]
      rintro rfl
      simp [checked]
  | ok =>
      constructor
      · intro same
        obtain rfl := Except.ok.inj same
        exact ⟨rfl, checked⟩
      · rintro ⟨rfl, _⟩
        rfl

theorem eq_sanitize_of_accept (accepts : sdk.accept api = .ok accepted) :
    accepted = sdk.names.sanitizer.sanitize api :=
  (accept_eq_ok_iff.mp accepts).1

theorem name_of_accept (accepts : sdk.accept api = .ok accepted) :
    accepted.api.name = api.name := by
  rw [eq_sanitize_of_accept accepts]
  rfl

theorem plan_eq_ok_iff {files : List ScriptFile} :
    sdk.plan apis = .ok files ↔
      ∃ accepted, apis.mapM sdk.accept = .ok accepted ∧
        files = sdk.files apis.head? accepted := by
  simp only [plan, bind, Except.bind, pure, Except.pure]
  cases apis.mapM sdk.accept with
  | error rejection => simp
  | ok all => simp [eq_comm]

theorem plan_eq_error_iff {rejection : Rejection} :
    sdk.plan apis = .error rejection ↔
      ∃ before api after, apis = before ++ api :: after ∧
        (∀ other ∈ before, ∃ accepted, sdk.accept other = .ok accepted) ∧
        sdk.accept api = .error rejection := by
  rw [← mapM_eq_error_iff]
  simp only [plan, bind, Except.bind, pure, Except.pure]
  cases apis.mapM sdk.accept <;> simp

/-- An SDK is made for a brand that is an identifier and leads from no engine class to
another. -/
theorem new_eq_ok_iff {config : Config} {now : Timestamp} :
    Sdk.new config now = .ok sdk ↔
      Text.isIdentifier config.brand = true ∧
        ∃ sanitizer, Sanitizer.new .engineClasses config.brand = .ok sanitizer ∧
          sdk = ⟨config, ⟨sanitizer⟩, now⟩ := by
  simp only [Sdk.new, SdkNames.new]
  cases Text.isIdentifier config.brand <;>
    cases Sanitizer.new .engineClasses config.brand <;>
    simp [bind, Except.bind, pure, Except.pure, eq_comm]

theorem reserved_of_new {config : Config} {now : Timestamp}
    (made : Sdk.new config now = .ok sdk) :
    sdk.names.sanitizer.reserved = .engineClasses := by
  obtain ⟨_, sanitizer, sanitizes, rfl⟩ := new_eq_ok_iff.mp made
  exact Sanitizer.reserved_of_new sanitizes

theorem isIdentifier_brand_of_new {config : Config} {now : Timestamp}
    (made : Sdk.new config now = .ok sdk) :
    Text.isIdentifier sdk.names.brand = true := by
  obtain ⟨identifier, sanitizer, sanitizes, rfl⟩ := new_eq_ok_iff.mp made
  simpa [SdkNames.brand, Sanitizer.brand_of_new sanitizes] using identifier

/-- The SDK about which nothing is configured, generated in the summer of 2024. -/
def standard : Sdk :=
  ⟨.standard, .standard, ⟨⟨2024, 6, 1, by decide⟩, 0, 0, by decide⟩⟩

theorem new_standard : new .standard standard.now = .ok standard := by
  have identifier : Text.isIdentifier Config.standard.brand = true := by decide
  have named : SdkNames.new Config.standard.brand = .ok .standard := by
    simp only [SdkNames.new, Config.standard, Sanitizer.new_standard]
    rfl
  simp only [new, identifier, named]
  rfl

end GodotSdk.Sdk
