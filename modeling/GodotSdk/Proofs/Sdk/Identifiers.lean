import GodotSdk.Proofs.Sdk.ClientNames
import GodotSdk.Proofs.Sdk.SharedNames

/-!
# Every declared name is an identifier

A script declares names of its own, names that are checked, names of which the first
part is checked, and names that a sanitizer makes of checked ones. All of them are
identifiers. A remark that has more than one line can declare a name that is none.
-/

namespace GodotSdk

/-! ## Sanitized names -/

namespace Sanitizer

variable {sanitizer : Sanitizer} {name : String}

theorem isIdentifier_className (brand : Text.isIdentifier sanitizer.brand = true)
    (identifier : Text.isIdentifier name = true) :
    Text.isIdentifier (sanitizer.className name) = true := by
  unfold className
  split
  · exact Text.isIdentifier_append brand
      (List.all_eq_true.mpr (Text.continuesIdentifier_of_mem identifier))
  · exact identifier

theorem isIdentifier_propertyName (identifier : Text.isIdentifier name = true) :
    Text.isIdentifier (sanitizer.propertyName name) = true := by
  unfold propertyName
  split
  · exact Text.isIdentifier_append identifier (by decide)
  · exact identifier

end Sanitizer

/-! ## Remarks -/

/-- The names that the remarks on an API declare. -/
def ApiDescription.leakedNames (api : ApiDescription) : List String :=
  api.datatypes.flatMap Datatype.leakedNames ++ api.calls.flatMap ApiCall.leakedNames

namespace Script

theorem mem_modelNames_iff {sanitizer : Sanitizer} {datatype : Datatype}
    {name : String} :
    name ∈ modelNames sanitizer datatype ↔
      name ∈ datatype.leakedNames ∨ name = sanitizer.className datatype.name ∨
      (∃ property ∈ datatype.properties, name = sanitizer.propertyName property.name) ∨
      name ∈ ["_init", "to_dict", "result"] := by
  simp only [modelNames, Datatype.leakedNames, List.mem_append, List.mem_cons,
    List.mem_flatMap, List.not_mem_nil, or_false]
  grind

theorem isIdentifier_of_mem_guardNames {call : ApiCall} {name : String}
    (among : name ∈ guardNames call) :
    Text.isIdentifier name = true := by
  have fixed : ∀ name ∈ ["auth_key", "auth_value"], name ∈ fixedNames := by decide
  unfold guardNames at among
  split at among
  · exact isIdentifier_of_mem_fixedNames (fixed name among)
  · cases among

end Script

/-! ## The scripts of an SDK -/

namespace Sdk

open Script

variable {config : Config} {now : Timestamp} {sdk : Sdk} {api : ApiDescription}
  {accepted : Sanitized} {name : String}

/-- Every name that the scripts for an API declare is an identifier, and so is the name
of every error code. -/
structure DeclaresIdentifiers (sdk : Sdk) (catalog : Option ApiDescription)
    (accepted : Sanitized) : Prop where
  names : ∀ file ∈ sdk.files catalog [accepted],
    ∀ name ∈ declaredNames file.text.toList, Text.isIdentifier name = true
  codes : ∀ entries ∈ enumeration? "ErrorCode" (sdk.errorsFile catalog).text,
    ∀ entry ∈ entries,
    ∃ name value, entry = some (name, value) ∧ Text.isIdentifier name = true

section

variable (made : Sdk.new config now = .ok sdk) (accepts : sdk.accept api = .ok accepted)

include made accepts

theorem mem_modelsFile
    (declared : name ∈ declaredNames (sdk.modelsFile accepted).text.toList) :
    Text.isIdentifier name = true ∨ name ∈ api.leakedNames := by
  have scriptClass := (isIdentifier_classes made accepts).1
  have fixed : ∀ name ∈ ["_init", "to_dict", "result"], name ∈ fixedNames := by decide
  have classes := (acceptable_of_accept accepts).classIdentifiers
  rw [eq_sanitize_of_accept accepts] at classes
  rw [declaredNames_modelsFile made accepts, List.mem_cons, List.mem_flatMap]
    at declared
  rcases declared with rfl | ⟨datatype, described, among⟩
  · exact .inl (name_of_accept accepts ▸ scriptClass)
  · rcases mem_modelNames_iff.mp among
      with leaked | rfl | ⟨property, owned, rfl⟩ | function
    · exact .inr (List.mem_append_left _ (List.mem_flatMap_of_mem described leaked))
    · exact .inl (classes (sdk.names.sanitizer.datatype datatype)
        (List.mem_map_of_mem described))
    · exact .inl (Member.name_of sdk.names.sanitizer property ▸ isIdentifier_member
        accepts described owned)
    · exact .inl (isIdentifier_of_mem_fixedNames (fixed name function))

theorem mem_clientFile
    (declared : name ∈ declaredNames (sdk.clientFile accepted).text.toList) :
    Text.isIdentifier name = true ∨ name ∈ api.leakedNames := by
  have scriptClass := (isIdentifier_classes made accepts).2
  have methods := (acceptable_of_accept accepts).methodIdentifiers
  rw [eq_sanitize_of_accept accepts] at methods
  rw [declaredNames_clientFile made accepts, List.mem_cons, List.mem_flatMap]
    at declared
  rcases declared with rfl | ⟨call, described, among⟩
  · exact .inl (name_of_accept accepts ▸ scriptClass)
  · rcases List.mem_append.mp among with leaked | written
    · exact .inr (List.mem_append_right _ (List.mem_flatMap_of_mem described leaked))
    · rcases List.mem_cons.mp written with rfl | guarded
      · exact .inl (methods call described)
      · exact .inl (isIdentifier_of_mem_guardNames guarded)

/-- What remarks declare is declared in the scripts. -/
theorem declared_of_leaked (leaked : name ∈ api.leakedNames) :
    ∃ file ∈ [sdk.modelsFile accepted, sdk.clientFile accepted],
      name ∈ declaredNames file.text.toList := by
  rcases List.mem_append.mp leaked with model | call
  · obtain ⟨datatype, described, among⟩ := List.mem_flatMap.mp model
    refine ⟨sdk.modelsFile accepted, List.mem_pair.mpr (.inl rfl), ?_⟩
    rw [declaredNames_modelsFile made accepts]
    exact List.mem_cons_of_mem
      _ (List.mem_flatMap_of_mem described (mem_modelNames_iff.mpr (.inl among)))
  · obtain ⟨call, described, among⟩ := List.mem_flatMap.mp call
    refine ⟨sdk.clientFile accepted, List.mem_pair.mpr (.inr rfl), ?_⟩
    rw [declaredNames_clientFile made accepts]
    exact List.mem_cons_of_mem
      _ (List.mem_flatMap_of_mem described (List.mem_append_left _ among))

theorem identifier_or_leaked :
    ∀ file ∈ [sdk.modelsFile accepted, sdk.clientFile accepted],
      ∀ name ∈ declaredNames file.text.toList,
      Text.isIdentifier name = true ∨ name ∈ api.leakedNames := by
  intro file written name declared
  rcases List.mem_pair.mp written with rfl | rfl
  · exact mem_modelsFile made accepts declared
  · exact mem_clientFile made accepts declared

/-- Sanitizing keeps identifiers. The scripts that all APIs share declare identifiers,
and in the scripts for an accepted API only remarks declare other names. So all names
are identifiers exactly if those are that remarks declare. -/
theorem declaresIdentifiers_iff_leakedNames (catalog : Option ApiDescription) :
    (∀ name, Text.isIdentifier name = true →
      Text.isIdentifier (sdk.names.sanitizer.className name) = true ∧
        Text.isIdentifier (sdk.names.sanitizer.propertyName name) = true) ∧
      (∀ file ∈ [sdk.settingsFile, sdk.errorsFile catalog],
        ∀ name ∈ declaredNames file.text.toList, Text.isIdentifier name = true) ∧
      (∀ file ∈ [sdk.modelsFile accepted, sdk.clientFile accepted],
        ∀ name ∈ declaredNames file.text.toList,
        Text.isIdentifier name = true ∨ name ∈ api.leakedNames) ∧
      (sdk.DeclaresIdentifiers catalog accepted ↔
        ∀ name ∈ api.leakedNames, Text.isIdentifier name = true) := by
  have sanitized (name : String) (identifier : Text.isIdentifier name = true) :
      Text.isIdentifier (sdk.names.sanitizer.className name) = true ∧
        Text.isIdentifier (sdk.names.sanitizer.propertyName name) = true :=
    ⟨Sanitizer.isIdentifier_className (isIdentifier_brand_of_new made) identifier,
      Sanitizer.isIdentifier_propertyName identifier⟩
  refine ⟨sanitized, identifier_of_shared made catalog,
    identifier_or_leaked made accepts, ?_, fun leaks => ⟨?_, ?_⟩⟩
  · rintro ⟨names, _⟩ name leaked
    obtain ⟨file, written, declared⟩ := declared_of_leaked made accepts leaked
    exact names file (List.mem_append_right _ (by simpa using written)) name declared
  · intro file written name declared
    rcases List.mem_append.mp written with shared | own
    · exact identifier_of_shared made catalog file shared name declared
    · rcases identifier_or_leaked made accepts file (by simpa using own) name declared
        with identifier | leaked
      · exact identifier
      · exact leaks name leaked
  · exact isIdentifier_errorCodes made catalog

end

theorem declaresIdentifiers_iff_leakedNames_widelyRemarked :
    Sdk.new .standard standard.now = .ok .standard ∧
      standard.accept widelyRemarked =
        .ok (standard.names.sanitizer.sanitize widelyRemarked) ∧
      standard.DeclaresIdentifiers (some widelyRemarked)
        (standard.names.sanitizer.sanitize widelyRemarked) := by
  have accepts : standard.accept widelyRemarked =
      .ok (standard.names.sanitizer.sanitize widelyRemarked) :=
    accept_of_sameCode accept_plainlyRemarked
      (sameCode_remarked (by decide) (by decide))
  have leaks : ∀ name ∈ widelyRemarked.leakedNames, Text.isIdentifier name = true := by
    decide
  exact ⟨new_standard, accepts,
    (declaresIdentifiers_iff_leakedNames new_standard accepts
      (some widelyRemarked)).2.2.2.mpr leaks⟩

/-- Remarks of which a replacement goes on with a variable that has no identifier. -/
def misnamed : ApiDescription :=
  remarked "What players own." "Title\nvar 2nd := true #" "GetItemRequest"

theorem misnamed_not_declaresIdentifiers :
    standard.accept misnamed = .ok (standard.names.sanitizer.sanitize misnamed) ∧
      "2nd" ∈ declaredNames
        (standard.modelsFile (standard.names.sanitizer.sanitize misnamed)).text.toList ∧
      ¬ standard.DeclaresIdentifiers none
        (standard.names.sanitizer.sanitize misnamed) := by
  have accepts : standard.accept misnamed =
      .ok (standard.names.sanitizer.sanitize misnamed) :=
    accept_of_sameCode accept_plainlyRemarked
      (sameCode_remarked (by decide) (by decide))
  have declared :
      "2nd" ∈ declaredNames (standard.modelsFile
        (standard.names.sanitizer.sanitize misnamed)).text.toList := by
    rw [declaredNames_modelsFile new_standard accepts]
    decide
  have digit : Text.isIdentifier "2nd" = false := by decide
  refine ⟨accepts, declared, fun identifiers => ?_⟩
  have identifier := identifiers.names _ (by simp [files]) "2nd" declared
  rw [digit] at identifier
  cases identifier

end Sdk

end GodotSdk
