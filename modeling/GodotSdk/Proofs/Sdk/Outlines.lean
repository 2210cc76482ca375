import GodotSdk.Proofs.Script.Outline
import GodotSdk.Proofs.Sdk.ClientNames
import GodotSdk.Proofs.Sdk.Remarks

/-!
# Outlines of the scripts of an API

The outlines of a models script and of a client script, read from their texts. At the
left margin are the class of the script and the classes or functions in it, and further
inside are the members and functions of the classes. Between them are the headings that
notes and links have after a line feed. An enclosed remark has none.
-/

namespace GodotSdk

open Script (Heading heading? outlineAt namesFrom scopeNames classScopes leakedNames)

/-- The headings that the note on an item has after its first line. -/
def leakedHeadings (deprecation : Option Deprecation) : List Heading :=
  deprecation.toList.flatMap fun deprecation =>
    ((Script.noteText deprecation).toList.splitOn '\n').tail.filterMap heading?

/-- The headings that the notes in a model have after their first lines. -/
def Datatype.leakedHeadings (datatype : Datatype) : List Heading :=
  GodotSdk.leakedHeadings datatype.deprecation
    ++ datatype.properties.flatMap fun property =>
      GodotSdk.leakedHeadings property.deprecation

namespace Script

/-! ## Notes -/

theorem outlineAt_obsoleteSteps (depth : Nat) (now : Timestamp)
    (deprecation : Option Deprecation) :
    outlineAt depth (obsoleteSteps (Obsolete.of? now deprecation)) =
      leakedHeadings deprecation := by
  cases deprecation with
  | none => exact outlineAt_nil depth
  | some deprecation =>
      have first : isComment ((TimedLine.note depth deprecation).chars now) = true := by
        rw [TimedLine.chars, List.append_assoc, List.append_assoc,
          isComment_of_blanks fun char member => (isBlank_indentation member).1]
        exact isComment_append (by decide) _
      rw [outlineAt, linesAt_note, List.filterMap_cons_none (heading?_of_comment first)]
      simp [leakedHeadings]

/-- An enclosed note has no headings. -/
theorem leakedHeadings_of_enclosed {deprecation : Option Deprecation}
    (enclosed : Deprecation.Enclosed deprecation) :
    leakedHeadings deprecation = [] := by
  rw [← outlineAt_obsoleteSteps 0 Sdk.standard.now]
  exact outlineAt_of_codeAt ((codeAt_obsoleteSteps 0 _ deprecation).mpr enclosed)

theorem outlineAt_scriptHeader (description : String) {className : String}
    (identifier : Text.isIdentifier className = true) :
    outlineAt 0 (scriptHeader description className) =
      ⟨0, false, some className⟩ :: outlineAt 0 [.line "extends RefCounted"] := by
  have declared := (declares_scriptClass identifier).outlineAt_eq 0
  have bannered : outlineAt 0 [.line banner] = [] :=
    outlineAt_of_codeAt (codeAt_line_of_comment (isComment_ofList (by decide))
      (feedless_ofList (by decide)) 0)
  rw [scriptHeader, outlineAt_cons, outlineAt_doc, outlineAt_cons, bannered,
    outlineAt_cons, declared]
  rfl

/-! ## Models -/

section Models

variable {sdk : Sdk} {datatype : Datatype}

/-- The headings of a member: those of its note, and its own. -/
def memberHeadings (sanitizer : Sanitizer) (property : Property) : List Heading :=
  leakedHeadings property.deprecation ++
    [⟨4, false, some (sanitizer.propertyName property.name)⟩]

/-- The headings inside a model: those of its members, and those of its functions. -/
def modelHeadings (sanitizer : Sanitizer) (datatype : Datatype) : List Heading :=
  let members := datatype.properties.map (Member.of sanitizer)
  datatype.properties.flatMap (memberHeadings sanitizer)
    ++ (⟨4, false, some "_init"⟩ :: outlineAt 2 (Statement.stepsAll (loadBody members)))
    ++ (⟨4, false, some "to_dict"⟩ ::
      outlineAt 2 (Statement.stepsAll (storeBody members)))

theorem outlineAt_memberSteps {property : Property}
    (identifier : Text.isIdentifier (Member.of sdk.names.sanitizer property).name =
      true)
    (annotated : ∀ type ∈ (Member.of sdk.names.sanitizer property).annotation?,
      '\n' ∉ type.render.toList)
    (now : Timestamp) :
    outlineAt 1 (memberSteps now (Member.of sdk.names.sanitizer property)) =
      memberHeadings sdk.names.sanitizer property := by
  rw [memberSteps, outlineAt_append, outlineAt_append, outlineAt_descriptionSteps,
    outlineAt_obsoleteSteps, (declares_member identifier annotated).outlineAt_eq,
    Member.name_of, List.nil_append]
  rfl

theorem outlineAt_modelSteps
    (identifier : Text.isIdentifier (sdk.names.sanitizer.className datatype.name) =
      true)
    (identifiers : ∀ property ∈ datatype.properties,
      Text.isIdentifier (Member.of sdk.names.sanitizer property).name = true)
    (annotated : ∀ property ∈ datatype.properties,
      ∀ type ∈ (Member.of sdk.names.sanitizer property).annotation?,
        '\n' ∉ type.render.toList) :
    outlineAt 0 (modelSteps sdk (sdk.names.sanitizer.datatype datatype)) =
      leakedHeadings datatype.deprecation ++
        ⟨0, true, some (sdk.names.sanitizer.className datatype.name)⟩ ::
          modelHeadings sdk.names.sanitizer datatype := by
  have header := (declares_class identifier).outlineAt_eq 0
  have fills := declares_init.outlineAt_eq 1
  have writes := declares_toDict.outlineAt_eq 1
  have apart (members : List Member) : outlineAt 1 (if members.isEmpty then []
      else [.blank]) = [] := by
    split <;> simp
  have members : outlineAt 1
      ((datatype.properties.map (Member.of sdk.names.sanitizer)).flatMap
        (memberSteps sdk.now)) =
        datatype.properties.flatMap (memberHeadings sdk.names.sanitizer) := by
    rw [List.flatMap_map, outlineAt_flatMap]
    exact List.flatMap_congr fun property declared =>
      outlineAt_memberSteps (identifiers property declared)
        (annotated property declared) sdk.now
  rw [modelSteps, modelMembers_datatype, outlineAt_append, outlineAt_append,
    outlineAt_descriptionSteps, outlineAt_obsoleteSteps, outlineAt_block,
    Sanitizer.datatype, header, List.nil_append, outlineAt_append, outlineAt_append,
    apart, members, outlineAt_cons, outlineAt_block, fills, outlineAt_cons,
    outlineAt_blank, outlineAt_block, writes, modelHeadings]
  simp [DeclarationKind.firstWord]

/-- Enclosed notes leave the headings of the members alone. -/
theorem flatMap_memberHeadings {sanitizer : Sanitizer} (enclosed : datatype.Enclosed) :
    datatype.properties.flatMap (memberHeadings sanitizer) =
      datatype.properties.map fun property =>
        ⟨4, false, some (sanitizer.propertyName property.name)⟩ := by
  rw [List.map_eq_flatMap]
  refine List.flatMap_congr fun property declared => ?_
  rw [memberHeadings,
    leakedHeadings_of_enclosed (enclosed.properties property declared), List.nil_append]

section Headings

variable (identifiers : ∀ property ∈ datatype.properties,
  Text.isIdentifier (Member.of sdk.names.sanitizer property).name = true)

include identifiers

/-- The functions of a model have headings further inside only, and none of them is that
of a class. -/
theorem bodies_of_identifiers :
    let members := datatype.properties.map (Member.of sdk.names.sanitizer)
    ∀ heading ∈ outlineAt 2 (Statement.stepsAll (loadBody members))
        ++ outlineAt 2 (Statement.stepsAll (storeBody members)),
      8 ≤ heading.margin ∧ heading.className? = none := by
  intro members
  have named : ∀ member ∈ members, Text.isIdentifier member.name = true :=
    List.forall_mem_map.mpr identifiers
  have loads := plainAll_loadBody named
  have stores := plainAll_storeBody named
  have flat : ∀ statement ∈ storeBody members,
      statement.names = [] ∨ ∃ name value, statement = .declare name value := by
    rw [storeBody, List.forall_mem_cons, List.forall_mem_append, List.forall_mem_map,
      List.forall_mem_singleton]
    exact ⟨.inr ⟨_, _, rfl⟩, fun _ _ => .inl rfl, .inl rfl⟩
  rw [List.forall_mem_append]
  constructor
  · intro heading among
    exact ⟨margin_of_feedless (feedlessAll_stepsAll loads) heading among,
      className?_of_namesAt (namesAt_loadBody named 2) heading among⟩
  · intro heading among
    exact ⟨margin_of_feedless (feedlessAll_stepsAll stores) heading among,
      className?_of_plainAll stores flat 2 heading among⟩

/-- The classes inside a model are those of its notes. -/
theorem filterMap_className?_modelHeadings :
    (modelHeadings sdk.names.sanitizer datatype).filterMap Heading.className? =
      (datatype.properties.flatMap fun property =>
        leakedHeadings property.deprecation).filterMap Heading.className? := by
  obtain ⟨loads, stores⟩ :=
    List.forall_mem_append.mp (bodies_of_identifiers identifiers)
  have none {headings : List Heading} (plain : ∀ heading ∈ headings,
      8 ≤ heading.margin ∧
      heading.className? = none) : headings.filterMap Heading.className? = [] :=
    List.filterMap_eq_nil_iff.mpr fun heading among => (plain heading among).2
  have function (name : String) : Heading.className? ⟨4, false, some name⟩ =
      Option.none := rfl
  simp [modelHeadings, memberHeadings, none loads, none stores, function,
    List.filterMap_flatMap]

variable (enclosed : datatype.Enclosed)

include enclosed

theorem inside_of_enclosed :
    ∀ heading ∈ modelHeadings sdk.names.sanitizer datatype,
      0 < heading.margin ∧ heading.className? = none := by
  obtain ⟨loads, stores⟩ :=
    List.forall_mem_append.mp (bodies_of_identifiers identifiers)
  have deeper {headings : List Heading} (inner : ∀ heading ∈ headings,
      8 ≤ heading.margin ∧
      heading.className? = none) : ∀ heading ∈ headings, 0 < heading.margin ∧
      heading.className? = none :=
    fun heading among =>
      ⟨by have := (inner heading among).1; omega, (inner heading among).2⟩
  rw [modelHeadings, flatMap_memberHeadings enclosed]
  simp only [List.forall_mem_append, List.forall_mem_map, List.forall_mem_cons]
  exact ⟨⟨fun _ _ => ⟨by decide, rfl⟩, ⟨by decide, rfl⟩, deeper loads⟩,
    ⟨by decide, rfl⟩, deeper stores⟩

/-- The scope of a model has its members and its functions. -/
theorem scopeNames_modelHeadings :
    scopeNames (modelHeadings sdk.names.sanitizer datatype) =
      datatype.properties.map (fun property =>
        sdk.names.sanitizer.propertyName property.name) ++ modelFunctions := by
  obtain ⟨loads, stores⟩ :=
    List.forall_mem_append.mp (bodies_of_identifiers identifiers)
  have none {headings : List Heading} (inner : ∀ heading ∈ headings,
      8 ≤ heading.margin ∧ heading.className? = none) : namesFrom 4 headings = [] :=
    namesFrom_eq_nil fun heading among => by have := (inner heading among).1; omega
  have first : ∀ heading ∈ (modelHeadings sdk.names.sanitizer datatype).head?,
      heading.margin = 4 := by
    rw [modelHeadings, flatMap_memberHeadings enclosed]
    cases datatype.properties <;> simp
  have own (name : String) : namesFrom 4 [⟨4, false, some name⟩] = [name] := rfl
  have members :
      namesFrom 4 (datatype.properties.flatMap (memberHeadings sdk.names.sanitizer)) =
      datatype.properties.map fun property =>
        sdk.names.sanitizer.propertyName property.name := by
    rw [flatMap_memberHeadings enclosed, List.map_eq_flatMap, namesFrom_flatMap,
      List.map_eq_flatMap]
    rfl
  rw [scopeNames_eq_namesFrom first, modelHeadings, namesFrom_append, namesFrom_append,
    members, namesFrom_cons, own, none loads, namesFrom_cons, own, none stores]
  simp [modelFunctions]

end Headings

end Models

/-! ## Clients -/

section Clients

variable {sdk : Sdk} {call : ApiCall}

theorem plainAll_guard {names : SdkNames} (unbroken : '\n' ∉ names.brand.toList)
    (guard : Guard) :
    ∀ heading ∈ outlineAt 1 (Statement.stepsAll (guardCode names guard)),
      4 ≤ heading.margin ∧ heading.className? = none := by
  have plain := plainAll_guardCode unbroken guard
  have flat : ∀ statement ∈ guardCode names guard,
      statement.names = [] ∨ ∃ name value, statement = .declare name value := by
    cases guard <;>
      simp [guardCode, Credential.preference, Statement.when, Statement.namesAll,
        Statement.names, Statement.namesIn, namesAll_failure]
  exact fun heading among =>
    ⟨margin_of_feedless (feedlessAll_stepsAll plain) heading among,
    className?_of_plainAll plain flat 1 heading among⟩

/-- A function has no headings outside of it but its own, and declares no classes. -/
theorem inside_call (identifier : Text.isIdentifier sdk.names.brand = true) :
    ∀ heading ∈ outlineAt 1 (guardSteps sdk.names call ++
      (sendCode sdk.names call).steps),
      0 < heading.margin ∧ heading.className? = none := by
  have plain := plain_sendCode identifier call
  have sends := namesAt_steps plain 1
  rw [names_sendCode] at sends
  rw [outlineAt_append, List.forall_mem_append]
  constructor
  · unfold guardSteps
    cases call.guard? with
    | none => simp
    | some guard =>
        rw [outlineAt_append, outlineAt_blank, List.append_nil]
        intro heading among
        obtain ⟨deeper, unclassed⟩ :=
          plainAll_guard (feedless_of_isIdentifier identifier) guard heading among
        exact ⟨by omega, unclassed⟩
  · intro heading among
    have deeper := margin_of_feedless (feedlessAll_steps plain) heading among
    exact ⟨by omega, className?_of_namesAt sends heading among⟩

theorem outlineAt_callSteps (identifier : Text.isIdentifier sdk.names.brand = true)
    {api : String} (named : '\n' ∉ api.toList)
    (method : Text.isIdentifier (methodName call.name) = true)
    (enclosed : call.Enclosed) :
    outlineAt 0 (callSteps sdk api call) =
      ⟨0, false, some (methodName call.name)⟩ ::
        outlineAt 1 (guardSteps sdk.names call ++ (sendCode sdk.names call).steps) := by
  have comments :=
    outlineAt_of_codeAt
      ((codeAt_callComments (feedless_of_isIdentifier identifier) named call
        0).mpr enclosed)
  rw [callSteps, outlineAt_append, comments, outlineAt_block,
    (declares_callHeader identifier method).outlineAt_eq]
  rfl

end Clients

end Script

/-! ## Scripts -/

namespace Sdk

open Script

variable {config : Config} {now : Timestamp} {sdk : Sdk} {api : ApiDescription}
  {accepted : Sanitized}

theorem outline_modelsFile (made : Sdk.new config now = .ok sdk)
    (accepts : sdk.accept api = .ok accepted) :
    outline (sdk.modelsFile accepted).text.toList =
      ⟨0, false, some (sdk.names.modelsClass api.name)⟩ ::
        (outlineAt 0 [.line "extends RefCounted"]
        ++ api.datatypes.flatMap fun datatype => leakedHeadings datatype.deprecation
          ++ ⟨0, true, some (sdk.names.sanitizer.className datatype.name)⟩ ::
            modelHeadings sdk.names.sanitizer datatype) := by
  have scriptClass := (isIdentifier_classes made accepts).1
  have classIdentifiers := (acceptable_of_accept accepts).classIdentifiers
  rw [eq_sanitize_of_accept accepts] at classIdentifiers
  have models : ∀ datatype ∈ api.datatypes,
      outlineAt 0 ([.blank, .blank] ++
        modelSteps sdk (sdk.names.sanitizer.datatype datatype)) =
        leakedHeadings datatype.deprecation
          ++ ⟨0, true, some (sdk.names.sanitizer.className datatype.name)⟩ ::
            modelHeadings sdk.names.sanitizer datatype := by
    intro datatype described
    rw [outlineAt_append, outlineAt_blanks, List.nil_append]
    apply outlineAt_modelSteps
    · exact classIdentifiers (sdk.names.sanitizer.datatype datatype)
        (List.mem_map_of_mem described)
    · exact fun property declared => isIdentifier_member accepts described declared
    · exact fun property declared type annotated =>
        feedless_of_annotation? accepts described declared annotated
  rw [modelsFile, outline_layout, modelsSteps, outlineAt_append,
    outlineAt_scriptHeader _ scriptClass, outlineAt_flatMap, name_of_accept accepts,
    eq_sanitize_of_accept accepts, Sanitizer.sanitize, List.flatMap_map,
    List.flatMap_congr models]
  rfl

theorem outline_clientFile (made : Sdk.new config now = .ok sdk)
    (accepts : sdk.accept api = .ok accepted)
    (enclosed : ∀ call ∈ api.calls, call.Enclosed) :
    outline (sdk.clientFile accepted).text.toList =
      ⟨0, false, some (sdk.names.clientClass api.name)⟩ ::
        (outlineAt 0 [.line "extends RefCounted"]
        ++ api.calls.flatMap fun call => ⟨0, false, some (methodName call.name)⟩ ::
          outlineAt 1 (guardSteps sdk.names call ++ (sendCode sdk.names call).steps)) :=
            by
  have scriptClass := (isIdentifier_classes made accepts).2
  have acceptable := acceptable_of_accept accepts
  have named := feedless_of_isIdentifier acceptable.identifier
  rw [eq_sanitize_of_accept accepts] at acceptable named scriptClass ⊢
  have functions : ∀ call ∈ api.calls,
      outlineAt 0 ([.blank, .blank] ++
        callSteps sdk (sdk.names.sanitizer.sanitize api).api.name call) =
        ⟨0, false, some (methodName call.name)⟩ ::
          outlineAt 1 (guardSteps sdk.names call ++ (sendCode sdk.names call).steps) :=
            by
    intro call described
    rw [outlineAt_append, outlineAt_blanks, List.nil_append]
    exact outlineAt_callSteps (isIdentifier_brand_of_new made) named
      (acceptable.methodIdentifiers call described) (enclosed call described)
  rw [clientFile, outline_layout, clientSteps, outlineAt_append,
    outlineAt_scriptHeader _ scriptClass, outlineAt_flatMap]
  exact congrArg _ (List.flatMap_congr functions)

end Sdk

end GodotSdk
