import GodotSdk.Proofs.Models.Filling
import GodotSdk.Proofs.Script.Declarations
import GodotSdk.Script.Api

/-!
# What the scripts of an API declare from its description

The models script of an accepted API declares its own class and an inner class for each
datatype. An inner class declares a member variable for each property, and the two
functions that fill it and write it. The client script declares its own class and a
static function for each call. That is what the steps of the scripts declare, of which
each line is read by its beginning. A remark is a comment there, and what it has after a
line feed is left out: that is read from the texts of the scripts, in their outlines.
-/

namespace GodotSdk

/-- The functions that every model has. -/
def Script.modelFunctions : List String :=
  ["_init", "to_dict"]

namespace Sanitizer

/-- The inner class that a datatype becomes. -/
def innerClass (sanitizer : Sanitizer) (datatype : Datatype) : Script.InnerClass where
  name := sanitizer.className datatype.name
  scope :=
    datatype.properties.map (fun property =>
      ⟨.variable, sanitizer.propertyName property.name⟩)
      ++ Script.modelFunctions.map (⟨.function, ·⟩)

end Sanitizer

namespace Script

/-! ## Models -/

section Models

variable {sdk : Sdk} {member : Member} {datatype : Datatype}

theorem declaration?_declaration (identifier : Text.isIdentifier member.name = true) :
    declaration? member.declaration = some ⟨.variable, member.name⟩ := by
  unfold Member.declaration
  cases member.annotation? with
  | none =>
      simp only [String.append_empty, String.append_assoc]
      exact declaration?_opening .variable identifier
        _ (nameEnds_of_append (by decide) _)
  | some type =>
      simp only [String.append_assoc]
      exact declaration?_opening .variable identifier
        _ (nameEnds_of_append (by decide) _)

theorem declarations_memberSteps (identifier : Text.isIdentifier member.name = true)
    (now : Timestamp) :
    declarations (memberSteps now member) = [⟨.variable, member.name⟩] := by
  simp [memberSteps, Step.declarations, declaration?_declaration identifier]

theorem declaration?_class {name : String}
    (identifier : Text.isIdentifier name = true) :
    declaration? ("class " ++ name ++ " extends RefCounted") =
      some ⟨.innerClass, name⟩ := by
  rw [String.append_assoc]
  exact declaration?_opening .innerClass identifier _ (nameEnds_ofList (by decide))

theorem declarations_modelSteps (identifier : Text.isIdentifier datatype.name = true) :
    declarations (modelSteps sdk datatype) = [⟨.innerClass, datatype.name⟩] := by
  simp [modelSteps, Step.declarations, declaration?_class identifier]

/-- The members of a class are declared in order. -/
theorem declarations_members {members : List Member}
    (identifiers : ∀ member ∈ members, Text.isIdentifier member.name = true)
    (now : Timestamp) :
    declarations (members.flatMap (memberSteps now)) = members.map fun member =>
      ⟨.variable, member.name⟩ := by
  rw [declarations_flatMap, List.map_eq_flatMap]
  exact List.flatMap_congr fun member declared =>
    declarations_memberSteps (identifiers member declared) now

theorem innerClasses_modelSteps
    (identifier : Text.isIdentifier (sdk.names.sanitizer.datatype datatype).name = true)
    (identifiers : ∀ property ∈ (sdk.names.sanitizer.datatype datatype).properties,
      Text.isIdentifier property.name = true) :
    innerClasses (modelSteps sdk (sdk.names.sanitizer.datatype datatype)) =
      [sdk.names.sanitizer.innerClass datatype] := by
  have functions : ∀ name ∈ modelFunctions, Text.isIdentifier name = true := by decide
  have fills : declaration? "func _init(data: Dictionary = \x7b\x7d) -> void" =
      some ⟨.function, "_init"⟩ := by
    have parts : "func _init(data: Dictionary = \x7b\x7d) -> void" =
        "func " ++ ("_init" ++ "(data: Dictionary = \x7b\x7d) -> void") :=
          ofList_eq_append rfl
    rw [parts]
    exact declaration?_opening .function (functions "_init" (by decide))
      _ (nameEnds_ofList (by decide))
  have writes : declaration? "func to_dict() -> Dictionary" =
      some ⟨.function, "to_dict"⟩ := by
    have parts : "func to_dict() -> Dictionary" =
        "func " ++ ("to_dict" ++ "() -> Dictionary") := ofList_eq_append rfl
    rw [parts]
    exact declaration?_opening .function (functions "to_dict" (by decide))
      _ (nameEnds_ofList (by decide))
  have named : ∀ member ∈ datatype.properties.map (Member.of sdk.names.sanitizer),
      Text.isIdentifier member.name = true := by
    rw [List.forall_mem_map]
    intro property declared
    rw [Member.name_of]
    exact identifiers (sdk.names.sanitizer.property property)
      (List.mem_map_of_mem declared)
  have apart (members : List Member) : declarations (if members.isEmpty then []
      else [.blank]) = [] := by
    split <;> rfl
  simp only [modelSteps, modelMembers_datatype, innerClasses_append,
    innerClasses_descriptionSteps, innerClasses_obsoleteSteps, List.nil_append]
  rw [innerClasses_block (declaration?_class identifier)]
  simp only [declarations_append, declarations_members named, apart, declarations_cons,
    Step.declarations, fills, writes]
  simp [Sanitizer.innerClass, Sanitizer.datatype, modelFunctions, Function.comp_def]

end Models

/-! ## Clients -/

section Clients

variable {sdk : Sdk} {call : ApiCall}

theorem declaration?_callHeader
    (identifier : Text.isIdentifier (methodName call.name) = true) :
    declaration? (callHeader sdk.names call) =
      some ⟨.staticFunction, methodName call.name⟩ := by
  unfold callHeader
  simp only [String.append_assoc]
  exact declaration?_opening .staticFunction identifier
    _ (nameEnds_of_append (by decide) _)

/-- The remarks on a function declare nothing, apart from what they have after a line
feed. -/
theorem declarations_callComments (api : String) :
    declarations (callComments sdk api call) = [] := by
  have link (label text : String) (mark : label.toList.head? = some '#') :
      declaration? (label ++ text ++ "]") = none := by
    apply declaration?_comment
    simp [String.toList_append, mark]
  have request :=
    link "## Request: [" (sdk.names.modelReference api call.request) (by simp)
  have result :=
    link "## Result: [" (sdk.names.modelReference api call.result) (by simp)
  have separator : declaration? "##" = none := declaration?_comment (by simp)
  unfold callComments
  cases call.summary <;> simp [Step.declarations, request, result, separator]

theorem declarations_callSteps (api : String)
    (identifier : Text.isIdentifier (methodName call.name) = true) :
    declarations (callSteps sdk api call) =
      [⟨.staticFunction, methodName call.name⟩] := by
  simp [callSteps, declarations_callComments, Step.declarations,
    declaration?_callHeader identifier]

end Clients

end Script

/-! ## Accepted APIs -/

namespace Sdk

open Script

variable {config : Config} {now : Timestamp} {sdk : Sdk} {api : ApiDescription}
  {accepted : Sanitized}

theorem isIdentifier_scriptClass (made : Sdk.new config now = .ok sdk)
    (accepts : sdk.accept api = .ok accepted) {ending : String}
    (continues : ending.toList.all Text.continuesIdentifier = true) :
    Text.isIdentifier (sdk.names.brand ++ accepted.api.name ++ ending) = true := by
  have identifier := (acceptable_of_accept accepts).identifier
  apply Text.isIdentifier_append _ continues
  apply Text.isIdentifier_append (isIdentifier_brand_of_new made)
  exact List.all_eq_true.mpr (Text.continuesIdentifier_of_mem identifier)

theorem isIdentifier_classes (made : Sdk.new config now = .ok sdk)
    (accepts : sdk.accept api = .ok accepted) :
    Text.isIdentifier (sdk.names.modelsClass accepted.api.name) = true ∧
      Text.isIdentifier (sdk.names.clientClass accepted.api.name) = true := by
  have endings : ∀ ending ∈ ["Models", "API"],
      ending.toList.all Text.continuesIdentifier = true := by decide
  exact ⟨isIdentifier_scriptClass made accepts (endings "Models" (by decide)),
    isIdentifier_scriptClass made accepts (endings "API" (by decide))⟩

/-- The models script declares its own class and the classes of the datatypes. -/
theorem declarations_modelsSteps (made : Sdk.new config now = .ok sdk)
    (accepts : sdk.accept api = .ok accepted) :
    declarations (modelsSteps sdk accepted.api) =
      ⟨.globalClass, sdk.names.modelsClass api.name⟩ ::
        api.datatypes.map fun datatype =>
          ⟨.innerClass, sdk.names.sanitizer.className datatype.name⟩ := by
  have acceptable := acceptable_of_accept accepts
  have scriptClass := (isIdentifier_classes made accepts).1
  have classes : ∀ datatype ∈ accepted.api.datatypes,
      declarations ([.blank, .blank] ++ modelSteps sdk datatype) =
        [⟨.innerClass, datatype.name⟩] := by
    intro datatype described
    rw [declarations_append,
      declarations_modelSteps (acceptable.classIdentifiers datatype described)]
    rfl
  rw [modelsSteps, declarations_append, declarations_scriptHeader _ scriptClass,
    declarations_flatMap, List.flatMap_congr classes, ← List.map_eq_flatMap,
    name_of_accept accepts, eq_sanitize_of_accept accepts]
  simp [Sanitizer.sanitize, Sanitizer.datatype, Function.comp_def]

/-- The inner classes of the models script declare the members and the functions of the
models. -/
theorem innerClasses_modelsSteps (accepts : sdk.accept api = .ok accepted) :
    innerClasses (modelsSteps sdk accepted.api) =
      api.datatypes.map sdk.names.sanitizer.innerClass := by
  have acceptable := acceptable_of_accept accepts
  obtain rfl := eq_sanitize_of_accept accepts
  have classes : ∀ datatype ∈ api.datatypes,
      innerClasses
        ([.blank, .blank] ++ modelSteps sdk (sdk.names.sanitizer.datatype datatype)) =
        [sdk.names.sanitizer.innerClass datatype] := by
    intro datatype described
    have member : sdk.names.sanitizer.datatype datatype ∈
        (sdk.names.sanitizer.sanitize api).api.datatypes :=
      List.mem_map_of_mem described
    rw [innerClasses_append,
      innerClasses_modelSteps (acceptable.classIdentifiers _ member)
        (acceptable.datatypes _ member).identifiers]
    rfl
  rw [modelsSteps, innerClasses_append, innerClasses_scriptHeader, List.nil_append,
    innerClasses_flatMap, Sanitizer.sanitize, List.flatMap_map,
    List.flatMap_congr classes, ← List.map_eq_flatMap]

/-- The client script declares its own class and the functions of the calls. -/
theorem declarations_clientSteps (made : Sdk.new config now = .ok sdk)
    (accepts : sdk.accept api = .ok accepted) :
    declarations (clientSteps sdk accepted.api) =
      ⟨.globalClass, sdk.names.clientClass api.name⟩ ::
        api.calls.map fun call => ⟨.staticFunction, methodName call.name⟩ := by
  have acceptable := acceptable_of_accept accepts
  have scriptClass := (isIdentifier_classes made accepts).2
  have functions : ∀ call ∈ accepted.api.calls,
      declarations ([.blank, .blank] ++ callSteps sdk accepted.api.name call) =
        [⟨.staticFunction, methodName call.name⟩] := by
    intro call described
    rw [declarations_append,
      declarations_callSteps _ (acceptable.methodIdentifiers call described)]
    rfl
  rw [clientSteps, declarations_append, declarations_scriptHeader _ scriptClass,
    declarations_flatMap, List.flatMap_congr functions, ← List.map_eq_flatMap,
    name_of_accept accepts, eq_sanitize_of_accept accepts]
  rfl

end Sdk

end GodotSdk
