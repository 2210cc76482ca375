import GodotSdk.Proofs.Naming.Frame
import GodotSdk.Proofs.Script.CodeLines
import GodotSdk.Proofs.Script.Declarations
import GodotSdk.Proofs.Sdk.Acceptance

/-!
# Remarks and code

Descriptions, summaries, deprecations and the names of requests and results are printed
as comments. Descriptions and summaries are documentation and stay comments whatever
they are. What replaces an item and what a call takes and gives are printed as they are,
so their line feeds end the comment.
-/

namespace GodotSdk

/-! ## Descriptions with the same code -/

/-- Properties that differ in their remarks only. -/
def Property.SameCode (left right : Property) : Prop :=
  right = { left with
    description := right.description, deprecation := right.deprecation }

/-- Datatypes that differ in their remarks, and those of their properties, only. -/
structure Datatype.SameCode (left right : Datatype) : Prop where
  name : right.name = left.name
  properties : List.Forall₂ Property.SameCode left.properties right.properties

/-- Calls that differ in their remarks only, and in the names of what they take and give
as long as those make the calls no different. -/
structure ApiCall.SameCode (left right : ApiCall) : Prop where
  same : right = { left with
    request := right.request, result := right.result, summary :=
      right.summary, deprecation := right.deprecation }
  role : right.role? = left.role?
  resultRole : right.resultRole? = left.resultRole?

/-- Descriptions that differ in their remarks only. The error catalog is in neither of
the scripts. -/
structure ApiDescription.SameCode (left right : ApiDescription) : Prop where
  name : right.name = left.name
  datatypes : List.Forall₂ Datatype.SameCode left.datatypes right.datatypes
  calls : List.Forall₂ ApiCall.SameCode left.calls right.calls

/-! ## Enclosed remarks -/

open Script (Encloses codeLines codeAt encloses_of_single)

/-- The note on a deprecated item is a comment. -/
def Deprecation.Enclosed (deprecation : Option Deprecation) : Prop :=
  ∀ note ∈ deprecation, ∀ replacement ∈ note.replacedBy, Encloses replacement

structure Datatype.Enclosed (datatype : Datatype) : Prop where
  note : Deprecation.Enclosed datatype.deprecation
  properties : ∀ property ∈ datatype.properties,
    Deprecation.Enclosed property.deprecation

structure ApiCall.Enclosed (call : ApiCall) : Prop where
  request : ∀ name ∈ call.request, Encloses name
  result : ∀ name ∈ call.result, Encloses name
  note : Deprecation.Enclosed call.deprecation

/-- All remarks of a description are comments. -/
structure ApiDescription.Enclosed (api : ApiDescription) : Prop where
  datatypes : ∀ datatype ∈ api.datatypes, datatype.Enclosed
  calls : ∀ call ∈ api.calls, call.Enclosed

/-! ## Growing lists -/

/-- The second list has everything in the first one in order, and has nothing else
exactly if a condition holds. -/
structure Grows {α : Type} (left right : List α) (exactly : Prop) : Prop where
  sublist : left.Sublist right
  eq_iff : left = right ↔ exactly

namespace Grows

variable {α : Type} {left right first second : List α} {exactly also : Prop}

theorem refl (same : List α) : Grows same same True :=
  ⟨List.Sublist.refl same, by simp⟩

theorem of_nil (empty : left = []) (grown : right = [] ↔ exactly) :
    Grows left right exactly := by
  rw [empty]
  exact ⟨List.nil_sublist right, eq_comm.trans grown⟩

theorem congr (grows : Grows left right exactly) (same : exactly ↔ also) :
    Grows left right also :=
  ⟨grows.sublist, grows.eq_iff.trans same⟩

/-- Of two lists that grow, neither can make up for the other. -/
theorem append (grows : Grows left right exactly) (others : Grows first second also) :
    Grows (left ++ first) (right ++ second) (exactly ∧ also) where
  sublist := grows.sublist.append others.sublist
  eq_iff := by
    rw [← grows.eq_iff, ← others.eq_iff]
    constructor
    · intro same
      have lengths := congrArg List.length same
      rw [List.length_append, List.length_append] at lengths
      have shorter := grows.sublist.length_le
      have shorterToo := others.sublist.length_le
      exact ⟨grows.sublist.eq_of_length (by omega),
        others.sublist.eq_of_length (by omega)⟩
    · rintro ⟨rfl, rfl⟩
      rfl

theorem append_left (same : List α) (grows : Grows left right exactly) :
    Grows (same ++ left) (same ++ right) exactly :=
  ((refl same).append grows).congr (by simp)

theorem append_right (same : List α) (grows : Grows left right exactly) :
    Grows (left ++ same) (right ++ same) exactly :=
  (grows.append (refl same)).congr (by simp)

theorem flatMap {β : Type} {related : β → β → Prop} {f g : β → List α}
    {condition : β → Prop} {before after : List β}
    (pairs : List.Forall₂ related before after)
    (each : ∀ old ∈ before, ∀ new, related old new →
      Grows (f old) (g new) (condition new)) :
    Grows (before.flatMap f) (after.flatMap g) (∀ new ∈ after, condition new) := by
  induction pairs with
  | nil => exact (refl []).congr (by simp)
  | cons pair _ ih =>
      rw [List.forall_mem_cons] at each
      simp only [List.flatMap_cons]
      exact ((each.1 _ pair).append (ih each.2)).congr (by simp)

end Grows

/-! ## Remarks in scripts -/

namespace Script

/-- A description is a comment, whatever it is. -/
@[simp] theorem codeAt_descriptionSteps (depth : Nat) (description : Option String) :
    codeAt depth (descriptionSteps description) = [] := by
  cases description <;> simp [descriptionSteps]

/-- A note is a mark of the severity, the message and a bracket. -/
theorem exists_obsoleteNote (obsolete : Obsolete) :
    ∃ mark : String, isComment mark.toList = true ∧ '\n' ∉ mark.toList ∧
      obsoleteNote obsolete = mark ++ obsolete.message ++ "]" := by
  unfold obsoleteNote
  cases obsolete.severity with
  | warning =>
      exact ⟨"## [Obsolete: ", isComment_ofList (by decide),
        feedless_ofList (by decide), rfl⟩
  | error => exact ⟨"## [Obsolete(error): ", isComment_ofList (by decide),
      feedless_ofList (by decide), rfl⟩

theorem codeAt_obsoleteNote_of_none {obsolete : Obsolete}
    (bare : obsolete.replacedBy = none) (depth : Nat) :
    codeAt depth [.line (obsoleteNote obsolete)] = [] := by
  obtain ⟨mark, opens, oneLine, note⟩ := exists_obsoleteNote obsolete
  rw [note, Obsolete.message, bare]
  apply codeAt_line_of_comment
  · exact isComment_toList_append (isComment_toList_append opens _) _
  · exact feedless_append (feedless_append oneLine (by decide)) (by decide)

theorem codeAt_obsoleteNote_of_some {obsolete : Obsolete} {replacement : String}
    (replaced : obsolete.replacedBy = some replacement) (depth : Nat) :
    codeAt depth [.line (obsoleteNote obsolete)] = [] ↔ Encloses replacement := by
  obtain ⟨mark, opens, oneLine, note⟩ := exists_obsoleteNote obsolete
  have parts : obsoleteNote obsolete = mark ++ "Use '" ++ replacement ++
      "' instead]" := by
    rw [note, Obsolete.message, replaced]
    simp only [String.append_assoc]
    rfl
  rw [parts]
  exact codeAt_remark '\x27' " instead]".toList (isComment_toList_append opens _)
    (feedless_append oneLine (by decide))
    (by decide) (by decide) (by decide) (by decide) depth

theorem codeAt_obsoleteSteps (depth : Nat) (now : Timestamp)
    (deprecation : Option Deprecation) :
    codeAt depth (obsoleteSteps (Obsolete.of? now deprecation)) = [] ↔
      Deprecation.Enclosed deprecation := by
  rcases deprecation with _ | ⟨_ | replacement, after⟩
  · simp [Obsolete.of?, obsoleteSteps, Deprecation.Enclosed]
  · simp [Obsolete.of?, obsoleteSteps, Deprecation.Enclosed,
      codeAt_obsoleteNote_of_none]
  · simp [Obsolete.of?, obsoleteSteps, Deprecation.Enclosed,
      codeAt_obsoleteNote_of_some]

/-- The note on an item adds code exactly if it is not enclosed. -/
theorem grows_obsoleteSteps {old : Option Deprecation}
    (enclosed : Deprecation.Enclosed old) (depth : Nat) (now : Timestamp)
    (new : Option Deprecation) :
    Grows (codeAt depth (obsoleteSteps (Obsolete.of? now old)))
      (codeAt depth (obsoleteSteps (Obsolete.of? now new)))
      (Deprecation.Enclosed new) :=
  .of_nil ((codeAt_obsoleteSteps depth now old).mpr enclosed)
    (codeAt_obsoleteSteps depth now new)

section References

variable {names : SdkNames} {api : String}

/-- The link to what a call takes or gives is a comment exactly if the name of that is
enclosed. -/
theorem codeAt_reference (label : String) (opens : isComment label.toList = true)
    (oneLine : '\n' ∉ label.toList) (brand : '\n' ∉ names.brand.toList)
    (identifier : '\n' ∉ api.toList) (name : Option String) (depth : Nat) :
    codeAt depth [.line (label ++ names.modelReference api name ++ "]")] = [] ↔
      ∀ target ∈ name, Encloses target := by
  cases name with
  | none =>
      simp only [SdkNames.modelReference, reduceCtorEq, false_implies, implies_true,
        iff_true, Option.mem_def]
      apply codeAt_line_of_comment
      · exact isComment_toList_append (isComment_toList_append opens _) _
      · exact feedless_append (feedless_append oneLine (by decide)) (by decide)
  | some target =>
      have models : '\n' ∉ (names.modelsClass api ++ ".").toList :=
        feedless_append (feedless_append (feedless_append brand identifier) (by decide))
          (by decide)
      -- A reserved name gets the brand in front, which is another part of what stands
      -- before it.
      obtain ⟨before, oneLineToo, parts⟩ : ∃ before : String, '\n' ∉ before.toList ∧
          names.modelReference api (some target) = before ++ target := by
        simp only [SdkNames.modelReference, Sanitizer.className]
        split
        · refine ⟨names.modelsClass api ++ "." ++ names.brand,
            feedless_append models brand, ?_⟩
          simp only [branded, SdkNames.brand, String.append_assoc]
        · exact ⟨names.modelsClass api ++ ".", models, rfl⟩
      rw [parts, ← String.append_assoc]
      simp only [Option.mem_def, Option.some.injEq, forall_eq']
      exact codeAt_remark ']' [] (isComment_toList_append opens _)
        (feedless_append oneLine oneLineToo) (by decide)
        (by decide) (by decide) (by decide) depth

end References

/-! ## The code of models -/

section Models

variable {sdk : Sdk} {left right : Property}

theorem grows_memberSteps (same : left.SameCode right)
    (enclosed : Deprecation.Enclosed left.deprecation) (depth : Nat) :
    Grows (codeAt depth (memberSteps sdk.now ⟨sdk.names.sanitizer, left⟩))
      (codeAt depth (memberSteps sdk.now ⟨sdk.names.sanitizer, right⟩))
      (Deprecation.Enclosed right.deprecation) := by
  have declared :
      Member.declaration ⟨sdk.names.sanitizer, right⟩ =
        Member.declaration ⟨sdk.names.sanitizer, left⟩ := by
    rw [same]
    rfl
  simp only [memberSteps, codeAt_append, codeAt_descriptionSteps,
    List.nil_append, declared]
  apply Grows.append_right
  exact grows_obsoleteSteps enclosed depth sdk.now right.deprecation

variable {before after : Datatype}

/-- What the functions of a model do has nothing to do with remarks. -/
theorem map_modelMembers {β : Type} {f : Member → β} (same : before.SameCode after)
    (each : ∀ left right : Property, left.SameCode right →
      f ⟨sdk.names.sanitizer, right⟩ = f ⟨sdk.names.sanitizer, left⟩) :
    (modelMembers sdk after).map f = (modelMembers sdk before).map f := by
  simp only [modelMembers, List.map_map]
  exact map_eq_of_forall₂ same.properties each

theorem grows_modelSteps (same : before.SameCode after) (enclosed : before.Enclosed)
    (depth : Nat) :
    Grows (codeAt depth (modelSteps sdk before)) (codeAt depth (modelSteps sdk after))
      after.Enclosed := by
  have empty : (modelMembers sdk after).isEmpty =
      (modelMembers sdk before).isEmpty := by
    have lengths := same.properties.length_eq
    rw [Bool.eq_iff_iff, List.isEmpty_iff_length_eq_zero,
      List.isEmpty_iff_length_eq_zero]
    simp only [modelMembers, List.length_map, lengths]
  have loads : loadBody (modelMembers sdk after) =
      loadBody (modelMembers sdk before) := by
    rw [loadBody, loadBody, empty, map_modelMembers same fun _ _ same =>
      by rw [same]; rfl]
  have stores : storeBody (modelMembers sdk after) =
      storeBody (modelMembers sdk before) := by
    rw [storeBody, storeBody, map_modelMembers same fun _ _ same => by rw [same]; rfl]
  simp only [modelSteps, codeAt_append, codeAt_block, codeAt_descriptionSteps,
    List.nil_append, same.name, empty, loads, stores, List.append_assoc]
  have note := grows_obsoleteSteps enclosed.note depth sdk.now after.deprecation
  have members : Grows
      (codeAt (depth + 1) ((modelMembers sdk before).flatMap (memberSteps sdk.now)))
      (codeAt (depth + 1) ((modelMembers sdk after).flatMap (memberSteps sdk.now)))
      (∀ property ∈ after.properties, Deprecation.Enclosed property.deprecation) := by
    simp only [modelMembers, List.flatMap_map, codeAt_flatMap]
    exact .flatMap same.properties fun left among right pair =>
      grows_memberSteps pair (enclosed.properties left among) (depth + 1)
  exact (note.append ((members.append_right _).append_left _)).congr
    ⟨fun both => ⟨both.1, both.2⟩, fun all => ⟨all.note, all.properties⟩⟩

end Models

/-- The code of a models script grows with the remarks on its classes. -/
theorem grows_modelsSteps {sdk : Sdk} {left right : ApiDescription}
    (same : left.SameCode right) (enclosed : left.Enclosed) :
    Grows (codeLines (layout (modelsSteps sdk left)).toList)
      (codeLines (layout (modelsSteps sdk right)).toList)
      (∀ datatype ∈ right.datatypes, datatype.Enclosed) := by
  simp only [codeLines_layout, modelsSteps, codeAt_append, codeAt_flatMap, same.name]
  apply Grows.append_right
  apply Grows.append_left
  exact .flatMap same.datatypes fun before among after pair =>
    (grows_modelSteps pair (enclosed.datatypes before among) 0).append_left _

/-! ## The code of clients -/

section Clients

variable {sdk : Sdk} {api : String} {left right : ApiCall}

theorem codeAt_callComments (brand : '\n' ∉ sdk.names.brand.toList)
    (identifier : '\n' ∉ api.toList) (call : ApiCall) (depth : Nat) :
    codeAt depth (callComments sdk api call) = [] ↔ call.Enclosed := by
  have parts : codeAt depth (callComments sdk api call) =
      codeAt depth
        [.line ("## Request: [" ++ sdk.names.modelReference api call.request ++ "]")]
        ++ codeAt depth
          [.line ("## Result: [" ++ sdk.names.modelReference api call.result ++ "]")]
        ++ codeAt depth (obsoleteSteps (Obsolete.of? sdk.now call.deprecation)) := by
    simp only [callComments, codeAt_append, ← codeAt_cons]
    cases call.summary with
    | none => rw [codeAt_nil, List.nil_append]
    | some text =>
        rw [codeAt_cons, codeAt_doc,
          codeAt_line_of_comment (by decide) (by decide)]; rfl
  have request :=
    codeAt_reference "## Request: [" (isComment_ofList (by decide))
      (feedless_ofList (by decide)) brand identifier call.request depth
  have result :=
    codeAt_reference "## Result: [" (isComment_ofList (by decide))
      (feedless_ofList (by decide)) brand identifier call.result depth
  rw [parts, List.append_eq_nil_iff, List.append_eq_nil_iff, request, result,
    codeAt_obsoleteSteps]
  exact ⟨fun ⟨⟨request, result⟩, note⟩ => ⟨request, result, note⟩,
    fun enclosed => ⟨⟨enclosed.request, enclosed.result⟩, enclosed.note⟩⟩

/-- What a function does depends on the roles of its call, and otherwise not on the
names of what it takes and gives. -/
theorem grows_callSteps (brand : '\n' ∉ sdk.names.brand.toList)
    (identifier : '\n' ∉ api.toList) (same : left.SameCode right)
    (enclosed : left.Enclosed) (depth : Nat) :
    Grows (codeAt depth (callSteps sdk api left))
      (codeAt depth (callSteps sdk api right)) right.Enclosed := by
  have name : right.name = left.name := by rw [same.same]
  have url : right.url = left.url := by rw [same.same]
  have auth : right.auth = left.auth := by rw [same.same]
  have guard : right.guard? = left.guard? := by
    rw [ApiCall.guard?, ApiCall.guard?, same.role, auth]
  have effects : right.effects = left.effects := by
    rw [ApiCall.effects, ApiCall.effects, same.resultRole]
  have header : callHeader sdk.names right = callHeader sdk.names left := by
    unfold callHeader
    rw [name]
  have guarded : guardSteps sdk.names right = guardSteps sdk.names left := by
    rw [guardSteps, guardSteps, guard]
  have arguments : authArguments right = authArguments left := by
    rw [authArguments, authArguments, guard, auth]
  have sends : sendCode sdk.names right = sendCode sdk.names left := by
    rw [sendCode, sendCode, completion, completion, url, arguments, effects]
  rw [callSteps, callSteps, codeAt_append, codeAt_append, header, guarded, sends]
  apply Grows.append_right
  exact .of_nil ((codeAt_callComments brand identifier left depth).mpr enclosed)
    (codeAt_callComments brand identifier right depth)

/-- The code of a client script grows with the remarks on its functions. -/
theorem grows_clientSteps {left right : ApiDescription}
    (brand : '\n' ∉ sdk.names.brand.toList) (identifier : '\n' ∉ left.name.toList)
    (same : left.SameCode right) (enclosed : left.Enclosed) :
    Grows (codeLines (layout (clientSteps sdk left)).toList)
      (codeLines (layout (clientSteps sdk right)).toList)
      (∀ call ∈ right.calls, call.Enclosed) := by
  simp only [codeLines_layout, clientSteps, codeAt_append, codeAt_flatMap, same.name]
  apply Grows.append_right
  apply Grows.append_left
  exact .flatMap same.calls fun before among after pair =>
    (grows_callSteps brand identifier pair (enclosed.calls before among)
      0).append_left _

end Clients

end Script

/-! ## Sanitized descriptions -/

namespace Sanitizer

variable (sanitizer : Sanitizer) {left right : ApiDescription}

theorem sameCode_datatype {before after : Datatype} (same : before.SameCode after) :
    (sanitizer.datatype before).SameCode (sanitizer.datatype after) where
  name := by simp only [datatype, same.name]
  properties := by
    simp only [datatype, List.forall₂_map_left_iff, List.forall₂_map_right_iff]
    refine same.properties.imp fun left right pair => ?_
    rw [pair]
    rfl

theorem sameCode_sanitize (same : left.SameCode right) :
    (sanitizer.sanitize left).api.SameCode (sanitizer.sanitize right).api where
  name := same.name
  datatypes := by
    simp only [sanitize, List.forall₂_map_left_iff, List.forall₂_map_right_iff]
    exact same.datatypes.imp fun _ _ => sanitizer.sameCode_datatype
  calls := same.calls

theorem enclosed_datatype_iff {datatype : Datatype} :
    (sanitizer.datatype datatype).Enclosed ↔ datatype.Enclosed := by
  constructor
  · rintro ⟨note, properties⟩
    exact ⟨note, fun property among =>
      properties (sanitizer.property property) (List.mem_map_of_mem among)⟩
  · rintro ⟨note, properties⟩
    refine ⟨note, ?_⟩
    simpa [Sanitizer.datatype, Sanitizer.property] using properties

theorem enclosed_sanitize_iff {api : ApiDescription} :
    (sanitizer.sanitize api).api.Enclosed ↔ api.Enclosed := by
  have datatypes :
      (∀ datatype ∈ (sanitizer.sanitize api).api.datatypes, datatype.Enclosed) ↔
      ∀ datatype ∈ api.datatypes, datatype.Enclosed := by
    simp [sanitize, enclosed_datatype_iff]
  exact ⟨fun all => ⟨datatypes.mp all.datatypes, all.calls⟩,
    fun all => ⟨datatypes.mpr all.datatypes, all.calls⟩⟩

end Sanitizer

/-! ## Remarks are not checked -/

theorem Datatype.SameCode.acceptable {classes : List String} {before after : Datatype}
    (same : before.SameCode after)
    (acceptable : before.Acceptable classes) : after.Acceptable classes where
  identifiers := by
    intro property among
    obtain ⟨old, member, pair⟩ := exists_related_of_mem same.properties among
    rw [pair]
    exact acceptable.identifiers old member
  distinct := by
    rw [map_eq_of_forall₂ same.properties fun old new pair => by rw [pair]]
    exact acceptable.distinct
  references := by
    intro property among
    obtain ⟨old, member, pair⟩ := exists_related_of_mem same.properties among
    rw [pair]
    exact acceptable.references old member

theorem ApiDescription.SameCode.acceptable {left right : ApiDescription}
    (same : left.SameCode right) (acceptable : left.Acceptable) : right.Acceptable := by
  have classes : right.datatypes.map (·.name) = left.datatypes.map (·.name) :=
    map_eq_of_forall₂ same.datatypes fun _ _ pair => pair.name
  have methods : (right.calls.map fun call => methodName call.name) = left.calls.map
      fun call => methodName call.name :=
    map_eq_of_forall₂ same.calls fun _ _ pair => by rw [pair.same]
  refine ⟨same.name ▸ acceptable.identifier, fun datatype among => ?_,
    classes ▸ acceptable.distinctClasses,
    fun datatype among => ?_, fun call among => ?_,
    methods ▸ acceptable.distinctMethods⟩
  · obtain ⟨old, member, pair⟩ := exists_related_of_mem same.datatypes among
    exact pair.name ▸ acceptable.classIdentifiers old member
  · obtain ⟨old, member, pair⟩ := exists_related_of_mem same.datatypes among
    exact classes ▸ pair.acceptable (acceptable.datatypes old member)
  · obtain ⟨old, member, pair⟩ := exists_related_of_mem same.calls among
    rw [pair.same]
    exact acceptable.methodIdentifiers old member

/-- An SDK that accepts a description accepts whatever differs from it in remarks
only. -/
theorem Sdk.accept_of_sameCode {sdk : Sdk} {left right : ApiDescription}
    {accepted : Sanitized} (accepts : sdk.accept left = .ok accepted)
    (same : left.SameCode right) :
    sdk.accept right = .ok (sdk.names.sanitizer.sanitize right) := by
  have acceptable := acceptable_of_accept accepts
  rw [eq_sanitize_of_accept accepts] at acceptable
  exact accept_eq_ok_iff.mpr ⟨rfl, ApiDescription.check_eq_ok_iff.mpr
    ((sdk.names.sanitizer.sameCode_sanitize same).acceptable acceptable)⟩

/-! ## Remarks do not reach code -/

namespace Sdk

variable {config : Config} {now : Timestamp} {sdk : Sdk} {left right : ApiDescription}
  {first second : Sanitized}

/-- The models and client scripts of two sanitized descriptions have the same code. -/
def SameScripts (sdk : Sdk) (first second : Sanitized) : Prop :=
  codeLines (sdk.modelsFile first).text.toList =
    codeLines (sdk.modelsFile second).text.toList ∧
    codeLines (sdk.clientFile first).text.toList =
      codeLines (sdk.clientFile second).text.toList

section

variable (made : Sdk.new config now = .ok sdk) (accepts : sdk.accept left = .ok first)
  (also : sdk.accept right = .ok second) (same : left.SameCode right)
    (enclosed : left.Enclosed)

include accepts also same enclosed

theorem grows_modelsFile :
    Grows (codeLines (sdk.modelsFile first).text.toList)
      (codeLines (sdk.modelsFile second).text.toList)
      (∀ datatype ∈ second.api.datatypes, datatype.Enclosed) := by
  obtain rfl := eq_sanitize_of_accept accepts
  obtain rfl := eq_sanitize_of_accept also
  exact Script.grows_modelsSteps (sdk.names.sanitizer.sameCode_sanitize same)
    ((sdk.names.sanitizer.enclosed_sanitize_iff).mpr enclosed)

include made

theorem grows_clientFile :
    Grows (codeLines (sdk.clientFile first).text.toList)
      (codeLines (sdk.clientFile second).text.toList)
      (∀ call ∈ second.api.calls, call.Enclosed) := by
  have acceptable := acceptable_of_accept accepts
  obtain rfl := eq_sanitize_of_accept accepts
  obtain rfl := eq_sanitize_of_accept also
  have brand := Script.feedless_of_isIdentifier (isIdentifier_brand_of_new made)
  have identifier := Script.feedless_of_isIdentifier acceptable.identifier
  exact Script.grows_clientSteps brand identifier
    (sdk.names.sanitizer.sameCode_sanitize same)
    ((sdk.names.sanitizer.enclosed_sanitize_iff).mpr enclosed)

theorem enclosed_of_sameScripts (scripts : sdk.SameScripts first second) :
    right.Enclosed := by
  have classes := (grows_modelsFile accepts also same enclosed).eq_iff.mp scripts.1
  have calls := (grows_clientFile made accepts also same enclosed).eq_iff.mp scripts.2
  obtain rfl := eq_sanitize_of_accept also
  exact (sdk.names.sanitizer.enclosed_sanitize_iff).mp ⟨classes, calls⟩

theorem sameScripts_of_enclosed (alike : right.Enclosed) :
    sdk.SameScripts first second := by
  have models := grows_modelsFile accepts also same enclosed
  have client := grows_clientFile made accepts also same enclosed
  obtain rfl := eq_sanitize_of_accept also
  have sanitized := (sdk.names.sanitizer.enclosed_sanitize_iff).mpr alike
  exact ⟨models.eq_iff.mpr sanitized.datatypes, client.eq_iff.mpr sanitized.calls⟩

/-- Of two descriptions that differ in their remarks only, one has enclosed remarks. The
scripts of the other have the same code exactly if its remarks are enclosed as well. -/
theorem sameScripts_iff_enclosed : sdk.SameScripts first second ↔ right.Enclosed :=
  ⟨enclosed_of_sameScripts made accepts also same enclosed,
    sameScripts_of_enclosed made accepts also same enclosed⟩

end

/-- A description with a class, a property that is replaced by another, and a call, all
of them described alike. -/
def remarked (remark replacement request : String) : ApiDescription where
  name := "Cloud"
  datatypes := [⟨"Item",
    [⟨"Name", .string, none, false, some remark, some ⟨some replacement, none⟩, none⟩],
    some remark, none⟩]
  calls := [⟨"GetItem", "/Cloud/GetItem", some request, some "Item", .sessionTicket,
    some remark, none⟩]
  errorList := []
  errors := .empty

theorem sameCode_remarked
    {remark replacement request otherRemark otherReplacement otherRequest : String}
    (plain : request ≠ "RegisterPlayFabUserRequest")
    (also : otherRequest ≠ "RegisterPlayFabUserRequest") :
    (remarked remark replacement request).SameCode
      (remarked otherRemark otherReplacement otherRequest) where
  name := rfl
  datatypes := .cons ⟨rfl, .cons rfl .nil⟩ .nil
  calls := .cons ⟨rfl, by simp [ApiCall.role?, plain, also], rfl⟩ .nil

theorem enclosed_remarked_iff {remark replacement request : String} :
    (remarked remark replacement request).Enclosed ↔
      Encloses replacement ∧ Encloses request := by
  have item : Encloses "Item" := encloses_of_single (by decide)
  constructor
  · rintro ⟨datatypes, calls⟩
    have inside :=
      (datatypes _ (List.mem_singleton_self _)).properties _ (List.mem_singleton_self _)
    exact ⟨inside _ rfl _ rfl, (calls _ (List.mem_singleton_self _)).request _ rfl⟩
  · rintro ⟨enclosed, also⟩
    refine ⟨fun datatype among => ?_, fun call among => ?_⟩
    · obtain rfl := List.mem_singleton.mp among
      exact ⟨by simp [Deprecation.Enclosed], by
          simpa [Deprecation.Enclosed] using enclosed⟩
    · obtain rfl := List.mem_singleton.mp among
      exact ⟨by simpa using also, by simpa using item, by simp [Deprecation.Enclosed]⟩

/-- Remarks of one line. -/
def plainlyRemarked : ApiDescription :=
  remarked "What players own." "Title" "GetItemRequest"

theorem accept_plainlyRemarked :
    standard.accept plainlyRemarked =
      .ok (standard.names.sanitizer.sanitize plainlyRemarked) :=
  accept_standard (by decide +kernel)

theorem enclosed_plainlyRemarked : plainlyRemarked.Enclosed :=
  enclosed_remarked_iff.mpr (by decide)

/-- Remarks with line feeds, of which the one in a replacement is followed by a
comment. -/
def widelyRemarked : ApiDescription :=
  remarked "What players own.\n\nvar counted := 0"
    "Title\n  # or the label, which is localized" "GetItemRequest"

theorem sameScripts_iff_enclosed_widelyRemarked :
    Sdk.new .standard standard.now = .ok .standard ∧
      standard.accept plainlyRemarked =
        .ok (standard.names.sanitizer.sanitize plainlyRemarked) ∧
      standard.accept widelyRemarked =
        .ok (standard.names.sanitizer.sanitize widelyRemarked) ∧
      plainlyRemarked.SameCode widelyRemarked ∧ plainlyRemarked.Enclosed ∧
      standard.SameScripts (standard.names.sanitizer.sanitize plainlyRemarked)
        (standard.names.sanitizer.sanitize widelyRemarked) := by
  have same : plainlyRemarked.SameCode widelyRemarked :=
    sameCode_remarked (by decide) (by decide)
  have also : standard.accept widelyRemarked =
      .ok (standard.names.sanitizer.sanitize widelyRemarked) :=
    accept_of_sameCode accept_plainlyRemarked same
  have alike : widelyRemarked.Enclosed := enclosed_remarked_iff.mpr (by decide)
  exact ⟨new_standard, accept_plainlyRemarked, also, same, enclosed_plainlyRemarked,
    (sameScripts_iff_enclosed new_standard accept_plainlyRemarked also same
      enclosed_plainlyRemarked).mpr alike⟩

/-- Remarks of which a replacement goes on after its line. -/
def leakyRemarked : ApiDescription :=
  remarked "What players own." "Title\nvar leaked := true #" "GetItemRequest"

/-- What follows the line feed is a line of code. -/
theorem leakyRemarked_not_sameScripts :
    standard.accept plainlyRemarked =
      .ok (standard.names.sanitizer.sanitize plainlyRemarked) ∧
      standard.accept leakyRemarked =
        .ok (standard.names.sanitizer.sanitize leakyRemarked) ∧
      plainlyRemarked.SameCode leakyRemarked ∧
      ¬ standard.SameScripts (standard.names.sanitizer.sanitize plainlyRemarked)
        (standard.names.sanitizer.sanitize leakyRemarked) := by
  have same : plainlyRemarked.SameCode leakyRemarked :=
    sameCode_remarked (by decide) (by decide)
  have also : standard.accept leakyRemarked =
      .ok (standard.names.sanitizer.sanitize leakyRemarked) :=
    accept_of_sameCode accept_plainlyRemarked same
  refine ⟨accept_plainlyRemarked, also, same, fun scripts => ?_⟩
  have enclosed :=
    enclosed_of_sameScripts new_standard accept_plainlyRemarked also same
      enclosed_plainlyRemarked scripts
  exact absurd enclosed (mt enclosed_remarked_iff.mp (by decide))

end Sdk

end GodotSdk
