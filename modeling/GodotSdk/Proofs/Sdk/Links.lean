import GodotSdk.Proofs.Sdk.Outlines

/-!
# Links to classes

The scripts of an API name its classes in three places: where a class is declared, where
a member has it for its type, and in the comments on a function that takes or gives one.
Each place sanitizes the name by itself. They agree, so the comments lead to classes of
the models script, and the type of a member is a class of the same script. That class is
declared once, unless a note has a line feed and declares it again.
-/

namespace GodotSdk

open Script (Heading leakedHeadings_of_enclosed classNames)

/-! ## Leaked classes -/

/-- The classes that the notes in a model declare after their first lines. -/
def Datatype.leakedClasses (datatype : Datatype) : List String :=
  datatype.leakedHeadings.filterMap Heading.className?

/-- The classes that the notes in a models script declare after their first lines. -/
def ApiDescription.leakedClasses (api : ApiDescription) : List String :=
  api.datatypes.flatMap Datatype.leakedClasses

namespace Script

/-! ## Lines in the text of a script -/

/-- A line of steps is a line of what they print. -/
theorem mem_splitOn_layout {steps : List Step} {text : String}
    (among : .line text ∈ steps) (feedless : '\n' ∉ text.toList) :
    text.toList ∈ (layout steps).toList.splitOn '\n' := by
  obtain ⟨before, after, rfl⟩ := List.append_of_mem among
  have line : linesAt 0 [.line text] = [text.toList] := by
    have flat : entry 0 text = text := by
      unfold entry
      split
      case isTrue empty => exact (String.isEmpty_iff.mp empty).symm
      case isFalse => rfl
    rw [linesAt_line, flat, List.splitOn_eq_singleton feedless]
  rw [splitOn_layout, linesAt_append, ← List.singleton_append, linesAt_append, line]
  simp

theorem layout_infix (before steps after : List Step) :
    (layout steps).toList <:+: (layout (before ++ steps ++ after)).toList :=
  ⟨(layout before).toList, (layout after).toList,
    by simp [layout_eq, String.toList_append]⟩

section Functions

variable {sdk : Sdk} {call : ApiCall}

/-- The function of a call is a part of the client script. -/
theorem layout_callSteps_infix {api : ApiDescription} (described : call ∈ api.calls) :
    (layout (callSteps sdk api.name call)).toList <:+:
      (layout (clientSteps sdk api)).toList := by
  obtain ⟨before, after, parts⟩ := List.append_of_mem described
  have whole : ∃ first last,
      clientSteps sdk api = first ++ callSteps sdk api.name call ++ last := by
    rw [clientSteps, parts, List.flatMap_append, List.flatMap_cons]
    generalize scriptHeader _ _ = header
    exact ⟨header
      ++ (before.flatMap (fun call =>
        [.blank, .blank] ++ callSteps sdk api.name call) ++ [.blank, .blank]),
      after.flatMap fun call => [.blank, .blank] ++ callSteps sdk api.name call,
      by simp only [List.append_assoc]⟩
  obtain ⟨first, last, same⟩ := whole
  rw [same]
  exact layout_infix first _ last

/-- The labels in the comments on a function, with what the function takes and gives. -/
def labels (call : ApiCall) : List (String × Option String) :=
  [("## Request: [", call.request), ("## Result: [", call.result)]

/-- The link after each label is on a line of its own, if it leads to an identifier. -/
theorem link_mem_callSteps (identifier : Text.isIdentifier sdk.names.brand = true)
    {api : String} (named : '\n' ∉ api.toList) {label name : String}
    (labelled : (label, some name) ∈ labels call)
    (single : '\n' ∉ (sdk.names.sanitizer.className name).toList) :
    (label ++ sdk.names.modelsClass api ++ "." ++ sdk.names.sanitizer.className name ++
      "]").toList ∈ (layout (callSteps sdk api call)).toList.splitOn '\n' := by
  have models : '\n' ∉ (sdk.names.modelsClass api).toList :=
    feedless_append (feedless_append (feedless_of_isIdentifier identifier) named)
      (by decide)
  have taken : (label = "## Request: [" ∧ call.request = some name) ∨
      (label = "## Result: [" ∧ call.result = some name) := by
    simpa [labels, eq_comm] using labelled
  have feedless : '\n' ∉ label.toList := by
    rcases taken with ⟨rfl, _⟩ | ⟨rfl, _⟩ <;> exact feedless_ofList (by decide)
  apply mem_splitOn_layout
  · rcases taken with ⟨rfl, taken⟩ | ⟨rfl, taken⟩ <;>
      simp [callSteps, callComments, taken, SdkNames.modelReference,
        String.append_assoc]
  · exact feedless_append (feedless_append
      (feedless_append (feedless_append feedless models) (by decide)) single)
      (by decide)

end Functions

end Script

namespace Sdk

open Script

variable {config : Config} {now : Timestamp} {sdk : Sdk} {api : ApiDescription}
  {accepted : Sanitized}

/-- The classes that the models script of an API declares. -/
def modelClasses (sdk : Sdk) (accepted : Sanitized) : List String :=
  classNames (sdk.modelsFile accepted).text.toList

/-- A label in the comments on a function is followed by a link to a class of the models
script, which begins with the class of that script. The function is a part of the client
script. -/
structure LinksTo (sdk : Sdk) (accepted : Sanitized) (call : ApiCall)
    (label name : String) : Prop where
  declared : name ∈ sdk.modelClasses accepted
  function : (layout (callSteps sdk accepted.api.name call)).toList <:+:
    (sdk.clientFile accepted).text.toList
  link : ∃ script : String,
    ("class_name " ++ script).toList ∈
      (sdk.modelsFile accepted).text.toList.splitOn '\n' ∧
    (label ++ script ++ "." ++ name ++ "]").toList ∈
      (layout (callSteps sdk accepted.api.name call)).toList.splitOn '\n'

/-- The classes that the scripts of an accepted API name are in its models script, once
if they are the type of a member. -/
structure Closed (sdk : Sdk) (api : ApiDescription) (accepted : Sanitized) : Prop where
  types : ∀ datatype ∈ accepted.api.datatypes, ∀ member ∈ modelMembers sdk datatype,
    ∀ className, member.annotation? = some (.model className) →
      (sdk.modelClasses accepted).count className = 1
  links : ∀ call ∈ accepted.api.calls, ∀ datatype ∈ api.datatypes, ∀ label,
    (label, some datatype.name) ∈ labels call →
      LinksTo sdk accepted call label (sdk.names.sanitizer.className datatype.name)

section

variable (made : Sdk.new config now = .ok sdk) (accepts : sdk.accept api = .ok accepted)

include made accepts

/-- The classes of a models script are those of the datatypes, and those of the
notes. -/
theorem modelClasses_eq :
    sdk.modelClasses accepted = api.datatypes.flatMap fun datatype =>
      (leakedHeadings datatype.deprecation).filterMap Heading.className?
        ++ sdk.names.sanitizer.className datatype.name ::
          (datatype.properties.flatMap fun property =>
            leakedHeadings property.deprecation).filterMap Heading.className? := by
  have base : (outlineAt 0 [.line "extends RefCounted"]).filterMap
      Heading.className? = [] :=
    List.filterMap_eq_nil_iff.mpr (className?_of_namesAt (namesAt_extends 0))
  have class? (name : String) : Heading.className? ⟨0, true, some name⟩ =
      some name := rfl
  have script? (name : String) : Heading.className? ⟨0, false, some name⟩ = none := rfl
  rw [modelClasses, classNames, outline_modelsFile made accepts,
    List.filterMap_cons_none (script? _), List.filterMap_append, base, List.nil_append,
    List.filterMap_flatMap]
  refine List.flatMap_congr fun datatype described => ?_
  rw [List.filterMap_append, List.filterMap_cons_some (class? _),
    filterMap_className?_modelHeadings fun property declared =>
      isIdentifier_member accepts described declared]

/-- A class is declared as often as datatypes have it, and as often as notes declare
it. -/
theorem count_modelClasses (name : String) :
    (sdk.modelClasses accepted).count name =
      (api.datatypes.map fun datatype =>
        sdk.names.sanitizer.className datatype.name).count name
        + api.leakedClasses.count name := by
  rw [modelClasses_eq made accepts, ApiDescription.leakedClasses]
  generalize api.datatypes = datatypes
  induction datatypes with
  | nil => rfl
  | cons datatype rest ih =>
      simp only [List.flatMap_cons, List.map_cons, List.count_append, List.count_cons,
        ih, Datatype.leakedClasses, Datatype.leakedHeadings, List.filterMap_append]
      omega

theorem count_className {datatype : Datatype} (described : datatype ∈ api.datatypes) :
    (sdk.modelClasses accepted).count (sdk.names.sanitizer.className datatype.name) =
      1 + api.leakedClasses.count (sdk.names.sanitizer.className datatype.name) := by
  have distinct := (acceptable_of_accept accepts).distinctClasses
  rw [eq_sanitize_of_accept accepts] at distinct
  have classes : (api.datatypes.map fun datatype =>
      sdk.names.sanitizer.className datatype.name).Nodup := by
    simpa [Sanitizer.sanitize, Sanitizer.datatype, Function.comp_def] using distinct
  rw [count_modelClasses made accepts,
    List.count_eq_one_of_mem classes
      (List.mem_map_of_mem (f := fun datatype : Datatype =>
        sdk.names.sanitizer.className datatype.name) described)]

/-- A link to a described class leads to its class in the models script. -/
theorem linksTo_of_labelled {call : ApiCall} (called : call ∈ accepted.api.calls)
    {datatype : Datatype} (described : datatype ∈ api.datatypes) {label : String}
    (labelled : (label, some datatype.name) ∈ labels call) :
    LinksTo sdk accepted call label (sdk.names.sanitizer.className datatype.name) := by
  have brand := isIdentifier_brand_of_new made
  have named := feedless_of_isIdentifier (acceptable_of_accept accepts).identifier
  have classes := (acceptable_of_accept accepts).classIdentifiers
  have scriptClass := (isIdentifier_classes made accepts).1
  have single : '\n' ∉ (sdk.names.sanitizer.className datatype.name).toList := by
    rw [eq_sanitize_of_accept accepts] at classes
    exact feedless_of_isIdentifier
      (classes (sdk.names.sanitizer.datatype datatype) (List.mem_map_of_mem described))
  refine ⟨?_, layout_callSteps_infix called,
    sdk.names.modelsClass accepted.api.name, ?_,
    link_mem_callSteps brand named labelled single⟩
  · apply List.count_pos_iff.mp
    rw [count_className made accepts described]
    omega
  · apply mem_splitOn_layout
    · simp [modelsSteps, scriptHeader]
    · exact feedless_append (by decide) (feedless_of_isIdentifier scriptClass)

/-- The class that annotates a member is declared once exactly if no note declares
it. -/
theorem count_annotation_iff {datatype : Datatype}
    (described : datatype ∈ api.datatypes) {property : Property}
    (declared : property ∈ datatype.properties) {target : String}
    (annotated : target ∈ property.annotated?) :
    (sdk.modelClasses accepted).count (sdk.names.sanitizer.className target) = 1 ↔
      sdk.names.sanitizer.className target ∉ api.leakedClasses := by
  obtain ⟨owner, among, same⟩ :=
    exists_owner accepts described declared (target?_of_annotated? annotated)
  rw [← same, count_className made accepts among, ← List.count_eq_zero]
  omega

/-- The types of all members are declared once exactly if no note declares one of
them. -/
theorem types_iff_leakedClasses :
    (∀ datatype ∈ accepted.api.datatypes, ∀ member ∈ modelMembers sdk datatype,
      ∀ className, member.annotation? = some (.model className) →
        (sdk.modelClasses accepted).count className = 1) ↔
    ∀ datatype ∈ api.datatypes, ∀ property ∈ datatype.properties,
      ∀ target ∈ property.annotated?,
      sdk.names.sanitizer.className target ∉ api.leakedClasses := by
  have copies : accepted.api.datatypes =
      api.datatypes.map sdk.names.sanitizer.datatype := by
    rw [eq_sanitize_of_accept accepts]
    rfl
  rw [copies, List.forall_mem_map]
  refine forall₂_congr fun datatype described => ?_
  rw [modelMembers_datatype, List.forall_mem_map]
  refine forall₂_congr fun property declared => ?_
  constructor
  · intro once target annotated
    rw [← count_annotation_iff made accepts described declared annotated]
    exact once _ (Member.annotation?_of_eq_model_iff.mpr ⟨target, annotated, rfl⟩)
  · intro free className annotation
    obtain ⟨target, annotated, rfl⟩ := Member.annotation?_of_eq_model_iff.mp annotation
    exact (count_annotation_iff made accepts described declared annotated).mpr
      (free target annotated)

/-- The links of the functions to described classes lead to classes of the models
script. The type of every member is a class of it that is declared once, exactly if no
note declares a class again that is the type of a member. -/
theorem closed_iff_leakedClasses :
    (∀ call ∈ accepted.api.calls, ∀ datatype ∈ api.datatypes, ∀ label,
      (label, some datatype.name) ∈ labels call →
        LinksTo sdk accepted call label (sdk.names.sanitizer.className datatype.name)) ∧
    (Closed sdk api accepted ↔
      ∀ datatype ∈ api.datatypes, ∀ property ∈ datatype.properties,
        ∀ target ∈ property.annotated?,
        sdk.names.sanitizer.className target ∉ api.leakedClasses) := by
  have links : ∀ call ∈ accepted.api.calls, ∀ datatype ∈ api.datatypes, ∀ label,
      (label, some datatype.name) ∈ labels call →
        LinksTo sdk accepted call label (sdk.names.sanitizer.className datatype.name) :=
    fun call called datatype described label labelled =>
      linksTo_of_labelled made accepts called described labelled
  refine ⟨links, ?_⟩
  rw [← types_iff_leakedClasses made accepts]
  constructor
  · exact Closed.types
  · intro types
    exact ⟨types, links⟩

end

/-- Reserved names in other cases, as classes, as types of members, and as what a call
takes and gives. A note declares a class that is the type of no member. -/
def reservedEverywhere : ApiDescription where
  name := "Cloud"
  datatypes := [
    ⟨"nODE", [⟨"File", .complex "nODE", none, false, none, none, none⟩], none,
      some ⟨some "Item\nclass Item extends RefCounted:\n    pass #", none⟩⟩,
    ⟨"Item", [⟨"Owner", .complex "oſ", none, false, none, none, none⟩], none, none⟩,
    ⟨"oſ", [], none, none⟩]
  calls := [⟨"GetItem", "/Cloud/GetItem", some "nODE", some "oſ", .anonymous,
    none, none⟩]
  errorList := []
  errors := .empty

theorem closed_iff_leakedClasses_reservedEverywhere :
    Sdk.new .standard standard.now = .ok standard ∧
      standard.accept reservedEverywhere =
        .ok (standard.names.sanitizer.sanitize reservedEverywhere) ∧
      reservedEverywhere.leakedClasses = ["Item"] ∧
      Closed standard reservedEverywhere
        (standard.names.sanitizer.sanitize reservedEverywhere) := by
  have accepts :
      standard.accept reservedEverywhere =
        .ok (standard.names.sanitizer.sanitize reservedEverywhere) :=
    accept_standard (by decide +kernel)
  have leaked : reservedEverywhere.leakedClasses = ["Item"] := by decide +kernel
  refine ⟨new_standard, accepts, leaked,
    (closed_iff_leakedClasses new_standard accepts).2.mpr ?_⟩
  rw [leaked]
  decide +kernel

/-- A class whose note goes on with a class of its name, and a member of it. -/
def doubledClass : ApiDescription where
  name := "Cloud"
  datatypes := [
    ⟨"Item", [⟨"Id", .string, none, false, none, none, none⟩], none,
      some ⟨some "Thing\nclass Item extends RefCounted:\n    pass #", none⟩⟩,
    ⟨"Owner", [.referring "Ref" "Item" none], none, none⟩]
  calls := []
  errorList := []
  errors := .empty

/-- The type of the member is a class that the script declares twice. -/
theorem doubledClass_not_closed :
    standard.accept doubledClass =
      .ok (standard.names.sanitizer.sanitize doubledClass) ∧
      standard.modelClasses (standard.names.sanitizer.sanitize doubledClass) =
        ["Item", "Item", "Owner"] ∧
      ¬ Closed standard doubledClass (standard.names.sanitizer.sanitize doubledClass) :=
  by
  have accepts : standard.accept doubledClass =
      .ok (standard.names.sanitizer.sanitize doubledClass) :=
    accept_standard (by decide +kernel)
  refine ⟨accepts, ?_, fun closed => ?_⟩
  · rw [modelClasses_eq new_standard accepts]
    decide +kernel
  · have free := (closed_iff_leakedClasses new_standard accepts).2.mp closed
    exact absurd free (by decide +kernel)

end Sdk

end GodotSdk
