import GodotSdk.Proofs.Models.Annotations
import GodotSdk.Proofs.Script.StatementNames
import GodotSdk.Proofs.Sdk.Deadlines
import GodotSdk.Proofs.Sdk.Declarations

/-!
# Names that a models script declares

Apart from remarks, a models script declares its class, and for each datatype a class
with its members and the functions that fill and write it. A note declares what its text
has after a line feed. Descriptions declare nothing.
-/

namespace GodotSdk

open Script (leakedNames)

/-- The names that the note on a deprecation declares. -/
def Deprecation.leaked (deprecation : Deprecation) : List String :=
  leakedNames (Script.noteText deprecation)

/-- The names that the note on an item declares, if it is deprecated. -/
def leakedBy (deprecation : Option Deprecation) : List String :=
  deprecation.toList.flatMap Deprecation.leaked

/-- The names that the notes in a model declare. -/
def Datatype.leakedNames (datatype : Datatype) : List String :=
  leakedBy datatype.deprecation ++ datatype.properties.flatMap fun property =>
    leakedBy property.deprecation

namespace Script

/-! ## Fixed names -/

/-- The names that scripts have whatever they are for. -/
def fixedNames : List String := [
  "SDK_VERSION", "BUILD_IDENTIFIER", "title_id", "vertical_name", "entity_token",
  "session_ticket", "developer_secret_key", "forget_all_credentials", "ErrorCode",
  "error", "error_code", "error_message", "error_details", "http_code", "http_status",
  "generate_error_report", "report", "_init", "to_dict", "result", "settings",
  "request", "callback", "auth_key", "auth_value", "push_error"]

theorem isIdentifier_of_mem_fixedNames {name : String} (fixed : name ∈ fixedNames) :
    Text.isIdentifier name = true := by
  have identifiers : ∀ name ∈ fixedNames, Text.isIdentifier name = true := by
    -- The characters of the literals are taken out first, since the kernel is slow to
    -- decode them.
    simp only [fixedNames, List.forall_mem_cons, Text.isIdentifier]
    repeat rw [String.toList_ofList]
    decide
  exact identifiers name fixed

/-- The endings that classes have after the brand. -/
theorem isIdentifier_branded {brand ending : String}
    (identifier : Text.isIdentifier brand = true)
    (among : ending ∈ ["Settings", "Errors", "Error", "Http"]) :
    Text.isIdentifier (brand ++ ending) = true := by
  have endings : ∀ ending ∈ ["Settings", "Errors", "Error", "Http"],
      ending.toList.all Text.continuesIdentifier = true := by decide
  exact Text.isIdentifier_append identifier (endings ending among)

/-! ## Comments -/

@[simp] theorem namesAt_descriptionSteps (depth : Nat) (description : Option String) :
    namesAt depth (descriptionSteps description) = [] := by
  cases description <;> simp [descriptionSteps]

@[simp] theorem namesAt_obsoleteSteps (depth : Nat) (now : Timestamp)
    (deprecation : Option Deprecation) :
    namesAt depth (obsoleteSteps (Obsolete.of? now deprecation)) =
      leakedBy deprecation := by
  cases deprecation with
  | none => exact namesAt_nil depth
  | some deprecation =>
      have opens (severity : Severity) :
          isComment ("## " ++ obsoleteMark severity).toList = true ∧
          '\n' ∉ ("## " ++ obsoleteMark severity).toList := by
        cases severity <;> decide
      have noted : namesAt depth (obsoleteSteps (Obsolete.of? now (some deprecation))) =
          declaredNames (obsoleteNote
            ⟨deprecation.replacedBy,
              Obsolete.severityAt now deprecation.deprecatedAfter⟩).toList :=
        namesAt_line depth _
      rw [noted, obsoleteNote_eq, declaredNames_remark (opens _).1 (opens _).2]
      simp [leakedBy, Deprecation.leaked]

theorem namesAt_blanks (depth : Nat) : namesAt depth [.blank, .blank] = [] := by
  rw [namesAt_cons]
  simp

/-- The line with the base class declares nothing. -/
theorem namesAt_extends (depth : Nat) :
    namesAt depth [.line "extends RefCounted"] = [] := by
  have parts : "extends RefCounted" = "extends" ++ " RefCounted" := rfl
  rw [parts]
  exact namesAt_line_eq_nil
    (feedless_append (feedless_ofList (by decide)) (feedless_ofList (by decide)))
    (lineName?_word (by decide) (by simp)) depth

theorem declares_scriptClass {className : String}
    (identifier : Text.isIdentifier className = true) :
    Declares .globalClass className ("class_name " ++ className) :=
  ⟨identifier, "", by rw [String.append_empty]; rfl, by simp, by decide⟩

theorem namesAt_scriptHeader (description : String) {className : String}
    (identifier : Text.isIdentifier className = true) (depth : Nat) :
    namesAt depth (scriptHeader description className) = [className] := by
  have declared := (declares_scriptClass identifier).namesAt_eq depth
  have bannered : namesAt depth [.line banner] = [] := by
    rw [namesAt_line, banner, declaredNames_of_comment (isComment_ofList (by decide))
      (feedless_ofList (by decide))]
  rw [scriptHeader, namesAt_cons, namesAt_doc, namesAt_cons, bannered, namesAt_cons,
    declared, namesAt_extends]
  rfl

theorem declares_class {name : String} (identifier : Text.isIdentifier name = true) :
    Declares .innerClass name ("class " ++ name ++ " extends RefCounted" ++ ":") := by
  refine ⟨identifier, " extends RefCounted" ++ ":", ?_,
    nameEnds_of_append (by decide) _, by decide⟩
  simp only [DeclarationKind.opening, String.append_assoc]

theorem declares_init :
    Declares .function "_init" ("func _init(data: Dictionary = \x7b\x7d) -> void" ++
      ":") :=
  ⟨isIdentifier_of_mem_fixedNames (by decide), "(data: Dictionary = \x7b\x7d) -> void:",
    ofList_append_eq rfl, nameEnds_ofList (by decide), feedless_ofList (by decide)⟩

theorem declares_toDict :
    Declares .function "to_dict" ("func to_dict() -> Dictionary" ++ ":") :=
  ⟨isIdentifier_of_mem_fixedNames (by decide), "() -> Dictionary:",
    ofList_append_eq rfl, nameEnds_ofList (by decide), feedless_ofList (by decide)⟩

/-! ## Models -/

section Models

variable {sdk : Sdk} {member : Member}

theorem plain_load (identifier : Text.isIdentifier member.name = true) :
    member.load.Plain := by
  simp [Member.load, Statement.when, Statement.Plain, Statement.PlainIn,
    Statement.PlainAll, Expr.Feedless, Expr.FeedlessAll, Expr.Rooted, identifier,
    feedless_of_isIdentifier identifier]

theorem plain_store (identifier : Text.isIdentifier member.name = true) :
    member.store.Plain := by
  have result : Text.isIdentifier "result" = true :=
    isIdentifier_of_mem_fixedNames (by decide)
  simp [Member.store, Statement.Plain, Expr.Feedless, Expr.Rooted, result,
    feedless_of_isIdentifier identifier]

section Bodies

variable {members : List Member}
  (identifiers : ∀ member ∈ members, Text.isIdentifier member.name = true)

include identifiers

theorem plainAll_loadBody : Statement.PlainAll (loadBody members) := by
  apply plainAll_append
  · split <;> simp [Statement.PlainAll, Statement.Plain]
  · exact plainAll_map fun member among => plain_load (identifiers member among)

theorem plainAll_storeBody : Statement.PlainAll (storeBody members) := by
  have result : Text.isIdentifier "result" = true :=
    isIdentifier_of_mem_fixedNames (by decide)
  have opened : Statement.PlainAll [.declare "result" .emptyDictionary] := by
    simp [Statement.PlainAll, Statement.Plain, Expr.Feedless, result]
  have answered : Statement.PlainAll [.answer (.variable "result")] := by
    simp [Statement.PlainAll, Statement.Plain, Expr.Feedless]
  exact plainAll_append opened
    (plainAll_append (plainAll_map fun member among =>
      plain_store (identifiers member among)) answered)

theorem namesAt_loadBody (depth : Nat) :
    namesAt depth (Statement.stepsAll (loadBody members)) = [] := by
  have first : Statement.namesAll (if members.isEmpty then [.pass] else []) = [] := by
    split <;> rfl
  rw [namesAt_stepsAll (plainAll_loadBody identifiers), loadBody, namesAll_append,
    namesAll_map, first, List.nil_append, List.flatMap_eq_nil_iff]
  exact fun member _ => rfl

theorem namesAt_storeBody (depth : Nat) :
    namesAt depth (Statement.stepsAll (storeBody members)) = ["result"] := by
  have stored : (members.flatMap fun member => member.store.names) = [] :=
    List.flatMap_eq_nil_iff.mpr fun member _ => rfl
  rw [namesAt_stepsAll (plainAll_storeBody identifiers), storeBody, Statement.namesAll,
    namesAll_append, namesAll_map, stored]
  rfl

end Bodies

theorem declares_member (identifier : Text.isIdentifier member.name = true)
    (annotated : ∀ type ∈ member.annotation?, '\n' ∉ type.render.toList) :
    Declares .variable member.name member.declaration := by
  have valued : '\n' ∉ (" = " ++ member.initial.render).toList := by
    cases member.initial <;> decide
  unfold Member.declaration
  cases annotation : member.annotation? with
  | none =>
      refine ⟨identifier, " = " ++ member.initial.render, ?_,
        nameEnds_of_append (by decide) _, valued⟩
      simp only [DeclarationKind.opening, String.append_empty, String.append_assoc]
  | some type =>
      have typed :=
        feedless_append (by decide : '\n' ∉ ": ".toList) (annotated type annotation)
      refine ⟨identifier, ": " ++ (type.render ++ (" = " ++ member.initial.render)), ?_,
        nameEnds_of_append (by decide) _, ?_⟩
      · simp only [DeclarationKind.opening, String.append_assoc]
      · rw [← String.append_assoc]
        exact feedless_append typed valued

theorem namesAt_memberSteps (identifier : Text.isIdentifier member.name = true)
    (annotated : ∀ type ∈ member.annotation?, '\n' ∉ type.render.toList) (depth : Nat)
    (now : Timestamp) :
    namesAt depth (memberSteps now member) = leakedBy member.property.deprecation ++
      [member.name] := by
  rw [memberSteps, namesAt_append, namesAt_append, namesAt_descriptionSteps,
    namesAt_obsoleteSteps, (declares_member identifier annotated).namesAt_eq,
    List.nil_append]

/-- The names of a model: its class, its members, the functions that fill and write it,
and a variable of the second. -/
def modelNames (sanitizer : Sanitizer) (datatype : Datatype) : List String :=
  leakedBy datatype.deprecation ++ sanitizer.className datatype.name ::
    ((datatype.properties.flatMap fun property =>
        leakedBy property.deprecation ++ [sanitizer.propertyName property.name])
      ++ ["_init", "to_dict", "result"])

theorem namesAt_modelSteps {datatype : Datatype}
    (identifier : Text.isIdentifier (sdk.names.sanitizer.className datatype.name) =
      true)
    (identifiers : ∀ property ∈ datatype.properties,
      Text.isIdentifier (Member.of sdk.names.sanitizer property).name = true)
    (annotated : ∀ property ∈ datatype.properties,
      ∀ type ∈ (Member.of sdk.names.sanitizer property).annotation?,
        '\n' ∉ type.render.toList)
    (depth : Nat) :
    namesAt depth (modelSteps sdk (sdk.names.sanitizer.datatype datatype)) =
      modelNames sdk.names.sanitizer datatype := by
  have header := (declares_class identifier).namesAt_eq depth
  have fills := declares_init.namesAt_eq (depth + 1)
  have writes := declares_toDict.namesAt_eq (depth + 1)
  have apart (members : List Member) : namesAt (depth + 1) (if members.isEmpty then []
      else [.blank]) = [] := by
    split <;> simp
  have named : ∀ member ∈ datatype.properties.map (Member.of sdk.names.sanitizer),
      Text.isIdentifier member.name = true := List.forall_mem_map.mpr identifiers
  have members : namesAt (depth + 1)
      ((datatype.properties.map (Member.of sdk.names.sanitizer)).flatMap
        (memberSteps sdk.now)) = datatype.properties.flatMap fun property =>
          leakedBy property.deprecation ++
            [sdk.names.sanitizer.propertyName property.name] := by
    rw [List.flatMap_map, namesAt_flatMap]
    refine List.flatMap_congr fun property declared => ?_
    rw [namesAt_memberSteps (identifiers property declared)
      (annotated property declared), Member.name_of]
    rfl
  have body : namesAt (depth + 1) [
      .block "func _init(data: Dictionary = \x7b\x7d) -> void"
        (Statement.stepsAll
          (loadBody (datatype.properties.map (Member.of sdk.names.sanitizer)))),
      .blank,
      .block "func to_dict() -> Dictionary"
        (Statement.stepsAll
          (storeBody (datatype.properties.map (Member.of sdk.names.sanitizer))))] =
      ["_init", "to_dict", "result"] := by
    rw [namesAt_cons, namesAt_block, fills, namesAt_loadBody named, namesAt_cons,
      namesAt_blank, namesAt_block, writes, namesAt_storeBody named]
    rfl
  rw [modelSteps, modelMembers_datatype, namesAt_append, namesAt_append,
    namesAt_descriptionSteps, namesAt_obsoleteSteps, namesAt_block]
  simp only [namesAt_append, members, apart, body]
  simp only [Sanitizer.datatype, header, modelNames, List.nil_append, List.append_nil,
    List.singleton_append]

end Models

end Script

namespace Sdk

open Script

variable {config : Config} {now : Timestamp} {sdk : Sdk} {api : ApiDescription}
  {accepted : Sanitized}

theorem feedless_of_annotation? (accepts : sdk.accept api = .ok accepted)
    {datatype : Datatype} (described : datatype ∈ api.datatypes) {property : Property}
    (declared : property ∈ datatype.properties) {type : MemberType}
    (annotated : (Member.of sdk.names.sanitizer property).annotation? = some type) :
    '\n' ∉ type.render.toList := by
  have required : property.isOptional = false := by
    cases optional : property.isOptional with
    | false => rfl
    | true => simp [Member.annotation?, optional] at annotated
  obtain rfl : (Member.of sdk.names.sanitizer property).type = type := by
    rw [Member.annotation?_of_required required] at annotated
    exact Option.some.inj annotated
  have identifier := isIdentifier_annotation accepts described declared required
  exact feedless_of_isIdentifier identifier

theorem declaredNames_modelsFile (made : Sdk.new config now = .ok sdk)
    (accepts : sdk.accept api = .ok accepted) :
    declaredNames (sdk.modelsFile accepted).text.toList =
      sdk.names.modelsClass api.name ::
        api.datatypes.flatMap (modelNames sdk.names.sanitizer) := by
  have scriptClass := (isIdentifier_classes made accepts).1
  have acceptable := acceptable_of_accept accepts
  have models : ∀ datatype ∈ api.datatypes,
      namesAt 0 ([.blank, .blank] ++
        modelSteps sdk (sdk.names.sanitizer.datatype datatype)) =
        modelNames sdk.names.sanitizer datatype := by
    intro datatype described
    have classIdentifiers := acceptable.classIdentifiers
    rw [eq_sanitize_of_accept accepts] at classIdentifiers
    have named :=
      classIdentifiers (sdk.names.sanitizer.datatype datatype)
        (List.mem_map_of_mem described)
    rw [namesAt_append, namesAt_blanks, List.nil_append]
    apply namesAt_modelSteps named
    · exact fun property declared => isIdentifier_member accepts described declared
    · exact fun property declared type annotated =>
        feedless_of_annotation? accepts described declared annotated
  rw [modelsFile, declaredNames_layout, modelsSteps, namesAt_append,
    namesAt_scriptHeader _ scriptClass, namesAt_flatMap, name_of_accept accepts,
    eq_sanitize_of_accept accepts, Sanitizer.sanitize, List.flatMap_map,
    List.flatMap_congr models]
  rfl

end Sdk

end GodotSdk
