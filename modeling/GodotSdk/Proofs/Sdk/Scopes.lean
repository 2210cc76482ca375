import GodotSdk.Proofs.Naming.MethodNames
import GodotSdk.Proofs.Sdk.Outlines
import GodotSdk.Proofs.Sdk.References

/-!
# Scopes

No scope of a script may declare a name twice. The names of a description are different
from each other in every scope once it is accepted, but the scripts declare names of
their own beside them: a models script its class, and a model the two functions that
fill it and write it. As long as remarks are comments, nothing is declared twice exactly
if no datatype and no property has such a name. A remark with a line feed in it can
declare anything.
-/

namespace GodotSdk

open Script (Encloses Heading DistinctScopes outline outlineAt namesFrom scopeNames
  classScopes modelFunctions
  modelHeadings leakedHeadings_of_enclosed)

/-- The name of the class of a models script is not reserved, since no reserved name
ends as it does. -/
theorem ReservedNames.contains_models (name : String) :
    engineClasses.contains (name ++ "Models") = false := by
  apply contains_append_eq_false
  rw [foldings_engineClasses]
  decide

namespace Sdk

/-- The scripts of an API declare no name twice: neither the models script, nor a class
in it, nor the client script. -/
structure DeclaresOnce (sdk : Sdk) (accepted : Sanitized) : Prop where
  models : DistinctScopes (sdk.modelsFile accepted).text.toList
  client : DistinctScopes (sdk.clientFile accepted).text.toList

variable {config : Config} {now : Timestamp} {sdk : Sdk} {api : ApiDescription}
  {accepted : Sanitized}

section

variable (made : Sdk.new config now = .ok sdk)

include made

/-- A class gets the name of the class of a models script only if a datatype has it. -/
theorem className_eq_modelsClass_iff {name : String} :
    sdk.names.sanitizer.className name = sdk.names.modelsClass api.name ↔
      name = sdk.names.modelsClass api.name := by
  have reserved := reserved_of_new made
  apply Sanitizer.className_eq_iff_of_free
  · rw [Sanitizer.isReserved, reserved]
    exact ReservedNames.contains_models _
  · intro other same
    rw [branded, SdkNames.modelsClass, SdkNames.brand, String.append_assoc,
      String.append_right_inj] at same
    rw [same, Sanitizer.isReserved, reserved]
    exact ReservedNames.contains_models _

/-- A member gets the name of a function of its model only if a property has it. -/
theorem propertyName_mem_modelFunctions_iff {name : String} :
    sdk.names.sanitizer.propertyName name ∈ modelFunctions ↔ name ∈ modelFunctions := by
  apply Sanitizer.propertyName_mem_iff_of_free
  · simp only [Sanitizer.isReserved, reserved_of_new made,
      ReservedNames.contains_engineClasses]
    decide
  · decide

variable (accepts : sdk.accept api = .ok accepted)

include accepts

/-! ## The scopes of the scripts -/

section Enclosed

variable (enclosed : api.Enclosed)

include enclosed

theorem outline_modelsFile_of_enclosed :
    outline (sdk.modelsFile accepted).text.toList =
      ⟨0, false, some (sdk.names.modelsClass api.name)⟩ ::
        (outlineAt 0 [.line "extends RefCounted"]
        ++ api.datatypes.flatMap fun datatype =>
          ⟨0, true, some (sdk.names.sanitizer.className datatype.name)⟩ ::
            modelHeadings sdk.names.sanitizer datatype) := by
  have bare : ∀ datatype ∈ api.datatypes, leakedHeadings datatype.deprecation
      ++ ⟨0, true, some (sdk.names.sanitizer.className datatype.name)⟩ ::
        modelHeadings sdk.names.sanitizer datatype =
      ⟨0, true, some (sdk.names.sanitizer.className datatype.name)⟩ ::
        modelHeadings sdk.names.sanitizer datatype := by
    intro datatype described
    rw [leakedHeadings_of_enclosed (enclosed.datatypes datatype described).note,
      List.nil_append]
  rw [outline_modelsFile made accepts, List.flatMap_congr bare]

/-- The models script declares its own class and the classes of the datatypes. -/
theorem scopeNames_modelsFile :
    scopeNames (outline (sdk.modelsFile accepted).text.toList) =
      sdk.names.modelsClass api.name ::
        api.datatypes.map fun datatype =>
          sdk.names.sanitizer.className datatype.name := by
  have classes : ∀ datatype ∈ api.datatypes,
      namesFrom 0 (⟨0, true, some (sdk.names.sanitizer.className datatype.name)⟩ ::
        modelHeadings sdk.names.sanitizer datatype) =
      [sdk.names.sanitizer.className datatype.name] := by
    intro datatype described
    have inside := Script.inside_of_enclosed
      (fun property declared => isIdentifier_member accepts described declared)
      (enclosed.datatypes datatype described)
    rw [Script.namesFrom_cons, Script.namesFrom_eq_nil fun heading among =>
      (inside heading among).1]
    rfl
  rw [outline_modelsFile_of_enclosed made accepts enclosed, scopeNames,
    Script.namesFrom_cons, Script.namesFrom_append,
    Script.namesFrom_of_name? (Script.name?_of_namesAt (Script.namesAt_extends 0)),
    Script.namesFrom_flatMap, List.flatMap_congr classes, ← List.map_eq_flatMap]
  rfl

/-- The classes in it declare the members and the functions of the models. -/
theorem classScopes_modelsFile :
    classScopes (outline (sdk.modelsFile accepted).text.toList) =
      api.datatypes.map fun datatype =>
        datatype.properties.map (fun property =>
          sdk.names.sanitizer.propertyName property.name) ++ modelFunctions := by
  have identifiers {datatype : Datatype} (described : datatype ∈ api.datatypes) :
      ∀ property ∈ datatype.properties,
        Text.isIdentifier (Script.Member.of sdk.names.sanitizer property).name = true :=
    fun property declared => isIdentifier_member accepts described declared
  have inside : ∀ datatype ∈ api.datatypes,
      ∀ heading ∈ modelHeadings sdk.names.sanitizer datatype,
      0 < heading.margin ∧ heading.className? = none :=
    fun datatype described =>
      Script.inside_of_enclosed (identifiers described)
        (enclosed.datatypes datatype described)
  have header : classScopes (⟨0, false, some (sdk.names.modelsClass api.name)⟩ ::
      outlineAt 0 [.line "extends RefCounted"]) = [] := by
    apply Script.classScopes_eq_nil
    rw [List.forall_mem_cons]
    exact ⟨rfl, Script.className?_of_namesAt (Script.namesAt_extends 0)⟩
  rw [outline_modelsFile_of_enclosed made accepts enclosed, ← List.cons_append,
    Script.classScopes_append Script.margin_of_head?_flatMap, header,
    Script.classScopes_flatMap inside, List.nil_append]
  exact List.map_congr_left fun datatype described =>
    Script.scopeNames_modelHeadings (identifiers described)
      (enclosed.datatypes datatype described)

/-- The client script declares its own class and the functions of the calls. -/
theorem scopeNames_clientFile :
    scopeNames (outline (sdk.clientFile accepted).text.toList) =
      sdk.names.clientClass api.name :: api.calls.map fun call =>
        methodName call.name := by
  have functions : ∀ call ∈ api.calls,
      namesFrom 0 (⟨0, false, some (methodName call.name)⟩ ::
        outlineAt 1 (Script.guardSteps sdk.names call ++
          (Script.sendCode sdk.names call).steps)) =
      [methodName call.name] := by
    intro call _
    have inside : ∀ heading ∈ outlineAt 1
        (Script.guardSteps sdk.names call ++ (Script.sendCode sdk.names call).steps),
          0 < heading.margin :=
      fun heading among =>
        (Script.inside_call (isIdentifier_brand_of_new made) heading among).1
    rw [Script.namesFrom_cons, Script.namesFrom_eq_nil inside]
    rfl
  rw [outline_clientFile made accepts enclosed.calls, scopeNames, Script.namesFrom_cons,
    Script.namesFrom_append,
    Script.namesFrom_of_name? (Script.name?_of_namesAt (Script.namesAt_extends 0)),
    Script.namesFrom_flatMap, List.flatMap_congr functions, ← List.map_eq_flatMap]
  rfl

theorem classScopes_clientFile :
    classScopes (outline (sdk.clientFile accepted).text.toList) = [] := by
  rw [outline_clientFile made accepts enclosed.calls]
  apply Script.classScopes_eq_nil
  rw [List.forall_mem_cons, List.forall_mem_append, List.forall_mem_flatMap]
  refine ⟨rfl, Script.className?_of_namesAt (Script.namesAt_extends 0),
    fun call _ => ?_⟩
  rw [List.forall_mem_cons]
  exact ⟨rfl, fun heading among =>
    (Script.inside_call (isIdentifier_brand_of_new made) heading among).2⟩

end Enclosed

/-! ## Names that are declared twice -/

/-- The names in the models script are different exactly if no datatype has the name of
its class. -/
theorem nodup_models_iff :
    (sdk.names.modelsClass api.name ::
        api.datatypes.map fun datatype =>
          sdk.names.sanitizer.className datatype.name).Nodup ↔
      ∀ datatype ∈ api.datatypes, datatype.name ≠ sdk.names.modelsClass api.name := by
  have distinct := (acceptable_of_accept accepts).distinctClasses
  rw [eq_sanitize_of_accept accepts] at distinct
  have classes : (api.datatypes.map fun datatype =>
      sdk.names.sanitizer.className datatype.name).Nodup := by
    simpa [Sanitizer.sanitize, Sanitizer.datatype, Function.comp_def] using distinct
  simp only [List.nodup_cons, classes, and_true, List.mem_map,
    className_eq_modelsClass_iff made, not_exists, not_and, ne_eq]

/-- The names in a model are different exactly if none of its properties has the name of
a function. -/
theorem nodup_model_iff {datatype : Datatype} (described : datatype ∈ api.datatypes) :
    (datatype.properties.map (fun property =>
      sdk.names.sanitizer.propertyName property.name) ++ modelFunctions).Nodup ↔
      ∀ property ∈ datatype.properties, property.name ∉ modelFunctions := by
  have members := Script.nodup_members accepts described
  simp only [List.map_map, Function.comp_def, Script.Member.name_of] at members
  have functions : modelFunctions.Nodup := by decide
  simp only [List.nodup_append', members, functions, true_and, List.Disjoint,
    List.forall_mem_map, propertyName_mem_modelFunctions_iff made]

omit made in
/-- The names that a client script takes from the description are always different. -/
theorem nodup_client :
    (sdk.names.clientClass api.name :: api.calls.map fun call =>
      methodName call.name).Nodup := by
  have distinct := (acceptable_of_accept accepts).distinctMethods
  rw [eq_sanitize_of_accept accepts] at distinct
  rw [List.nodup_cons, List.mem_map]
  constructor
  · rintro ⟨call, _, same⟩
    exact methodName_ne_clientClass call.name sdk.names api.name same
  · exact distinct

section

variable (enclosed : api.Enclosed)

include enclosed

/-- The models script declares nothing twice exactly if none of the names in it is one
that it declares anyway. -/
theorem distinctScopes_modelsFile_iff :
    DistinctScopes (sdk.modelsFile accepted).text.toList ↔
      (∀ datatype ∈ api.datatypes, datatype.name ≠ sdk.names.modelsClass api.name) ∧
        ∀ datatype ∈ api.datatypes, ∀ property ∈ datatype.properties,
          property.name ∉ modelFunctions := by
  have script := scopeNames_modelsFile made accepts enclosed
  have classes := classScopes_modelsFile made accepts enclosed
  constructor
  · rintro ⟨named, owned⟩
    rw [script, nodup_models_iff made accepts] at named
    refine ⟨named, fun datatype described =>
      (nodup_model_iff made accepts described).mp (owned _ ?_)⟩
    rw [classes]
    exact List.mem_map_of_mem described
  · rintro ⟨named, owned⟩
    constructor
    · rw [script]
      exact (nodup_models_iff made accepts).mpr named
    · rw [classes, List.forall_mem_map]
      exact fun datatype described =>
        (nodup_model_iff made accepts described).mpr (owned datatype described)

theorem distinctScopes_clientFile :
    DistinctScopes (sdk.clientFile accepted).text.toList where
  script := by
    rw [scopeNames_clientFile made accepts enclosed]
    exact nodup_client accepts
  classes := by
    rw [classScopes_clientFile made accepts enclosed]
    exact List.forall_mem_nil _

/-- As long as remarks are comments, nothing is declared twice exactly if no datatype
and no property has a name that the scripts declare anyway. -/
theorem declaresOnce_iff :
    DeclaresOnce sdk accepted ↔
      (∀ datatype ∈ api.datatypes, datatype.name ≠ sdk.names.modelsClass api.name) ∧
        ∀ datatype ∈ api.datatypes, ∀ property ∈ datatype.properties,
          property.name ∉ modelFunctions := by
  rw [← distinctScopes_modelsFile_iff made accepts enclosed]
  constructor
  · exact DeclaresOnce.models
  · intro models
    exact ⟨models, distinctScopes_clientFile made accepts enclosed⟩

end

end

/-- An API with calls, and one class of texts whose name and whose properties' names are
given. -/
def oneClass (name : String) (properties calls : List String) : ApiDescription :=
  ⟨"Cloud", [⟨name, properties.map fun property =>
    ⟨property, .string, none, false, none, none, none⟩, none, none⟩],
    calls.map fun call => ⟨call, "/Cloud/" ++ call, none, none, .anonymous, none, none⟩,
    [], .empty⟩

theorem enclosed_oneClass (name : String) (properties calls : List String) :
    (oneClass name properties calls).Enclosed := by
  constructor
  · intro datatype among
    obtain rfl := List.mem_singleton.mp among
    constructor <;> simp [Deprecation.Enclosed]
  · intro call among
    obtain ⟨called, _, rfl⟩ := List.mem_map.mp among
    constructor <;> simp [Deprecation.Enclosed]

/-- Names that are close to those of the scripts, one that is reserved, and a note that
goes on with a comment. -/
def closeNames : ApiDescription where
  name := "Cloud"
  datatypes := [
    ⟨"CloudModels", [
      ⟨"init", .string, none, false, none,
        some ⟨some "Thread\n  # class CloudModels:", none⟩, none⟩,
      ⟨"To_Dict", .string, none, false, none, none, none⟩,
      ⟨"Thread", .string, none, true, none, none, none⟩,
      ⟨"PlayFabCloudModels", .string, none, false, none, none, none⟩], none, none⟩]
  calls := [
    ⟨"PlayFabCloudAPI", "/Cloud/PlayFabCloudAPI", none, some "CloudModels", .anonymous,
      none, none⟩,
    ⟨"ToDict", "/Cloud/ToDict", some "to_dict", none, .anonymous, none, none⟩]
  errorList := []
  errors := .empty

theorem enclosed_closeNames : closeNames.Enclosed := by
  have note : Encloses "Thread\n  # class CloudModels:" := by decide
  have references : Encloses "CloudModels" ∧ Encloses "to_dict" := by decide
  constructor
  · intro datatype among
    obtain rfl := List.mem_singleton.mp among
    constructor <;> simp [Deprecation.Enclosed, note]
  · intro call among
    rcases List.mem_pair.mp among with rfl | rfl <;> constructor <;>
      simp [Deprecation.Enclosed, references]

theorem declaresOnce_iff_closeNames :
    Sdk.new .standard standard.now = .ok standard ∧
      standard.accept closeNames = .ok (standard.names.sanitizer.sanitize closeNames) ∧
      closeNames.Enclosed ∧
      DeclaresOnce standard (standard.names.sanitizer.sanitize closeNames) := by
  have accepts : standard.accept closeNames =
      .ok (standard.names.sanitizer.sanitize closeNames) :=
    accept_standard (by decide +kernel)
  exact ⟨new_standard, accepts, enclosed_closeNames,
    (declaresOnce_iff new_standard accepts enclosed_closeNames).mpr (by decide)⟩

/-- A class with the name of its script, and a property with the name of a function. -/
def takenNames : ApiDescription :=
  oneClass "PlayFabCloudModels" ["to_dict"] []

/-- Both scopes of the models script declare a name twice. -/
theorem takenNames_not_declaresOnce :
    standard.accept takenNames = .ok (standard.names.sanitizer.sanitize takenNames) ∧
      scopeNames (outline (standard.modelsFile
        (standard.names.sanitizer.sanitize takenNames)).text.toList) =
        ["PlayFabCloudModels", "PlayFabCloudModels"] ∧
      classScopes (outline (standard.modelsFile
        (standard.names.sanitizer.sanitize takenNames)).text.toList) =
        [["to_dict", "_init", "to_dict"]] ∧
      ¬ DeclaresOnce standard (standard.names.sanitizer.sanitize takenNames) := by
  have accepts : standard.accept takenNames =
      .ok (standard.names.sanitizer.sanitize takenNames) :=
    accept_standard (by decide +kernel)
  have enclosed : takenNames.Enclosed := enclosed_oneClass _ _ _
  have script := scopeNames_modelsFile new_standard accepts enclosed
  have classes := classScopes_modelsFile new_standard accepts enclosed
  refine ⟨accepts, ?_, ?_, ?_⟩
  · rw [script]
    decide +kernel
  · rw [classes]
    decide +kernel
  · intro once
    have distinct := once.models.script
    rw [script, nodup_models_iff new_standard accepts] at distinct
    exact absurd distinct (by decide)

end Sdk

end GodotSdk
