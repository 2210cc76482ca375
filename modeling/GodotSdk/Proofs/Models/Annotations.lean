import GodotSdk.Proofs.Models.Agreement
import GodotSdk.Proofs.Script.Declarations
import GodotSdk.Proofs.Sdk.References

/-!
# Annotations

A required member is declared with a type and a first value of that type. Native types
have annotations of their own, and the others are classes of the script, whose members
start with null. A class may be named as a native type is, and then the annotation of a
member does not tell what it starts with. This happens exactly if a required property
refers to a datatype of such a name.
-/

namespace GodotSdk

namespace Script

/-! ## Lines with a type and a value -/

/-- The annotation and the first value in a line that declares a variable with both. -/
def typing? (line : String) : Option (String × String) := do
  let rest ← "var ".toList.isPrefixOf? line.toList
  let rest ← ": ".toList.isPrefixOf? (Text.readName rest).2
  let (hint, rest) := Text.readName rest
  let value ← " = ".toList.isPrefixOf? rest
  return (String.ofList hint, String.ofList value)

example : typing? "var Items: Array = []" = some ("Array", "[]") := by
  decide

theorem typing?_of_parts {name hint : String} (named : Text.isIdentifier name = true)
    (typed : Text.isIdentifier hint = true) (value : String) :
    typing? ("var " ++ name ++ (": " ++ hint) ++ " = " ++ value) =
      some (hint, value) := by
  have strip (before rest : List Char) : before.isPrefixOf? (before ++ rest) =
      some rest :=
    List.isPrefixOf?_eq_some_iff_append_eq.mpr rfl
  have colon : Text.continuesIdentifier ':' = false :=
    Text.continuesIdentifier_of_mem_marks (by decide)
  have first : Text.readName (name.toList ++
      (": ".toList ++ (hint.toList ++ (" = ".toList ++ value.toList)))) =
      (name.toList, ": ".toList ++ (hint.toList ++ (" = ".toList ++ value.toList))) :=
        by
    apply Text.readName_append named
    simpa using colon
  have second : Text.readName (hint.toList ++ (" = ".toList ++ value.toList)) =
      (hint.toList, " = ".toList ++ value.toList) := by
    apply Text.readName_append typed
    simp
  simp only [typing?, String.toList_append, List.append_assoc, strip, first, second,
    Option.bind_eq_bind, Option.bind_some, Option.pure_def, String.ofList_toList]

/-! ## Native types -/

namespace MemberType

/-- The types that are not classes of a script. -/
def natives : List MemberType :=
  [.bool, .int, .float, .string, .array, .dictionary]

/-- Their annotations, which a class may have for a name. -/
def nativeNames : List String :=
  natives.map render

theorem mem_natives (type : MemberType) :
    type ∈ natives ∨ ∃ className, type = .model className := by
  cases type with
  | model className => exact .inr ⟨className, rfl⟩
  | _ => exact .inl (by decide)

/-- The annotation of a type tells its first value if no class has the name of a native
type. -/
theorem initial_eq_of_render_eq {first second : MemberType}
    (apart : ∀ className, first = .model className ∨ second = .model className →
      className ∉ nativeNames)
    (same : first.render = second.render) : first.initial = second.initial := by
  have told : ∀ left ∈ natives, ∀ right ∈ natives, left.render = right.render →
      left.initial = right.initial := by
    decide
  rcases mem_natives first with native | ⟨className, rfl⟩
  · rcases mem_natives second with also | ⟨className, rfl⟩
    · exact told first native second also same
    · have named : className ∈ nativeNames := List.mem_map.mpr ⟨first, native, same⟩
      exact absurd named (apart className (.inr rfl))
  · rcases mem_natives second with native | ⟨other, rfl⟩
    · have named : className ∈ nativeNames :=
        List.mem_map.mpr ⟨second, native, same.symm⟩
      exact absurd named (apart className (.inl rfl))
    · rfl

end MemberType

end Script

/-- The datatype that gives a property its annotation: the one that a required property
refers to by itself. -/
def Property.annotated? (property : Property) : Option String :=
  if property.isOptional || property.collection.isSome then none
    else property.actualType.target?

namespace Script

open MemberType (nativeNames)

/-! ## Annotations of members -/

namespace Member

variable {sanitizer : Sanitizer} {property : Property} {member : Member}
  {type : MemberType}

theorem typing?_declaration (named : Text.isIdentifier member.name = true)
    (annotated : member.annotation? = some type)
    (typed : Text.isIdentifier type.render = true) :
    typing? member.declaration = some (type.render, type.initial.render) := by
  rw [declaration, initial, annotated]
  exact typing?_of_parts named typed type.initial.render

theorem annotation?_of_required (required : member.property.isOptional = false) :
    member.annotation? = some member.type := by
  rw [annotation?, required]
  rfl

@[simp] theorem isOptional_of :
    (of sanitizer property).property.isOptional = property.isOptional := rfl

/-- The annotation of a member is a class exactly if its property is annotated with a
datatype, whose class it is. -/
theorem type_of_eq_model_iff {className : String}
    (required : property.isOptional = false) :
    (of sanitizer property).type = .model className ↔
      ∃ target, property.annotated? = some target ∧
        sanitizer.className target = className := by
  have same : (of sanitizer property).type =
      .of sanitizer property.actualType property.collection :=
    MemberType.of_actualType sanitizer property.actualType property.collection
  rw [same, Property.annotated?, required]
  cases property.collection with
  | some kind => cases kind <;> simp [MemberType.of]
  | none => cases property.actualType <;> simp [MemberType.of, MemberType.ofActual,
      ActualType.target?]

/-- A member is annotated with a class exactly if its property is annotated with a
datatype, whose class it is. -/
theorem annotation?_of_eq_model_iff {className : String} :
    (of sanitizer property).annotation? = some (.model className) ↔
      ∃ target ∈ property.annotated?, sanitizer.className target = className := by
  cases optional : property.isOptional with
  | true => simp [annotation?, Property.annotated?, optional]
  | false =>
      rw [annotation?_of_required optional, Option.some.injEq]
      exact type_of_eq_model_iff optional

end Member

end Script

namespace Sdk

open Script (Member modelMembers typing?)
open Script.MemberType (natives nativeNames)

/-- The members of the models of an API that are required. -/
def requiredMembers (sdk : Sdk) (api : ApiDescription) : List Member :=
  (api.datatypes.flatMap (modelMembers sdk)).filter fun member =>
    !member.property.isOptional

/-- Required members that are declared with one annotation are declared with one value,
and no class is annotated as a native type is. -/
structure AnnotationsTell (sdk : Sdk) (api : ApiDescription) : Prop where
  values : ∀ first ∈ requiredMembers sdk api, ∀ second ∈ requiredMembers sdk api,
    ∀ hint value other, typing? first.declaration = some (hint, value) →
      typing? second.declaration = some (hint, other) → value = other
  classes : ∀ member ∈ requiredMembers sdk api, ∀ className,
    member.annotation? = some (.model className) → className ∉ nativeNames

section

variable {config : Config} {now : Timestamp} {sdk : Sdk} {api : ApiDescription}
  {accepted : Sanitized}

theorem mem_requiredMembers_iff (accepts : sdk.accept api = .ok accepted)
    {member : Member} :
    member ∈ requiredMembers sdk accepted.api ↔
      ∃ datatype ∈ api.datatypes, ∃ property ∈ datatype.properties,
        property.isOptional = false ∧
        member = Member.of sdk.names.sanitizer property := by
  rw [eq_sanitize_of_accept accepts]
  simp only [requiredMembers, Sanitizer.sanitize, List.flatMap_map,
    Script.modelMembers_datatype, List.mem_filter, List.mem_flatMap, List.mem_map,
    Bool.not_eq_true']
  constructor
  · rintro ⟨⟨datatype, described, property, declared, rfl⟩, required⟩
    exact ⟨datatype, described, property, declared, required, rfl⟩
  · rintro ⟨datatype, described, property, declared, required, rfl⟩
    exact ⟨⟨datatype, described, property, declared, rfl⟩, required⟩

theorem annotation?_of_mem {member : Member}
    (among : member ∈ requiredMembers sdk api) :
    member.annotation? = some member.type := by
  apply Member.annotation?_of_required
  simpa using (List.mem_filter.mp among).2

/-- No name of a native type ends in an engine class, so no class gets such a name by
sanitizing. -/
theorem className_mem_nativeNames_iff (made : Sdk.new config now = .ok sdk)
    {name : String} :
    sdk.names.sanitizer.className name ∈ nativeNames ↔ name ∈ nativeNames := by
  apply className_mem_iff_of_foreign made
  rw [ReservedNames.foreign_iff, ReservedNames.foldings_engineClasses]
  decide

theorem target?_of_annotated? {property : Property} {target : String}
    (annotated : property.annotated? = some target) :
    property.actualType.target? = some target := by
  unfold Property.annotated? at annotated
  split at annotated
  · cases annotated
  · exact annotated

/-- The annotations of an accepted API can be read back from the lines that have
them. -/
theorem isIdentifier_annotation (accepts : sdk.accept api = .ok accepted)
    {datatype : Datatype} (described : datatype ∈ api.datatypes) {property : Property}
    (declared : property ∈ datatype.properties)
    (required : property.isOptional = false) :
    Text.isIdentifier (Member.of sdk.names.sanitizer property).type.render = true := by
  have nativeIdentifiers : ∀ type ∈ natives, Text.isIdentifier type.render = true := by
    decide
  rcases Script.MemberType.mem_natives (Member.of sdk.names.sanitizer property).type
    with native | ⟨className, model⟩
  · exact nativeIdentifiers (Member.of sdk.names.sanitizer property).type native
  · obtain ⟨target, annotated, rfl⟩ := (Member.type_of_eq_model_iff required).mp model
    obtain ⟨owner, among, same⟩ :=
      exists_owner accepts described declared (target?_of_annotated? annotated)
    have classIdentifiers := (acceptable_of_accept accepts).classIdentifiers
    rw [eq_sanitize_of_accept accepts] at classIdentifiers
    rw [model, Script.MemberType.render, ← same]
    exact classIdentifiers (sdk.names.sanitizer.datatype owner)
      (List.mem_map_of_mem among)

theorem isIdentifier_member (accepts : sdk.accept api = .ok accepted)
    {datatype : Datatype} (described : datatype ∈ api.datatypes) {property : Property}
    (declared : property ∈ datatype.properties) :
    Text.isIdentifier (Member.of sdk.names.sanitizer property).name = true := by
  have acceptable := acceptable_of_accept accepts
  rw [eq_sanitize_of_accept accepts] at acceptable
  have inside :=
    acceptable.datatypes (sdk.names.sanitizer.datatype datatype)
      (List.mem_map_of_mem described)
  rw [Member.name_of]
  exact inside.identifiers (sdk.names.sanitizer.property property)
    (List.mem_map_of_mem declared)

/-- The line that declares a required member has its annotation and the first value of
the annotated type. -/
theorem typing?_of_mem (accepts : sdk.accept api = .ok accepted) {member : Member}
    (among : member ∈ requiredMembers sdk accepted.api) :
    typing? member.declaration =
      some (member.type.render, member.type.initial.render) := by
  obtain ⟨datatype, described, property, declared, required, rfl⟩ :=
    (mem_requiredMembers_iff accepts).mp among
  apply Member.typing?_declaration
  · exact isIdentifier_member accepts described declared
  · exact Member.annotation?_of_required required
  · exact isIdentifier_annotation accepts described declared required

/-- No member is annotated as a native type is by a class exactly if no property is
annotated with a datatype of such a name. -/
theorem classes_iff (made : Sdk.new config now = .ok sdk)
    (accepts : sdk.accept api = .ok accepted) :
    (∀ member ∈ requiredMembers sdk accepted.api, ∀ className,
      member.annotation? = some (.model className) → className ∉ nativeNames) ↔
    ∀ datatype ∈ api.datatypes, ∀ property ∈ datatype.properties,
      ∀ target ∈ property.annotated?, target ∉ nativeNames := by
  constructor
  · intro apart datatype described property declared target annotated native
    have required : property.isOptional = false := by
      cases optional : property.isOptional with
      | false => rfl
      | true => simp [Property.annotated?, optional] at annotated
    have among := (mem_requiredMembers_iff accepts).mpr ⟨datatype, described, property,
        declared, required, rfl⟩
    apply apart _ among
      _ (Member.annotation?_of_eq_model_iff.mpr ⟨target, annotated, rfl⟩)
    exact (className_mem_nativeNames_iff made).mpr native
  · intro free member among className model
    obtain ⟨datatype, described, property, declared, required, rfl⟩ :=
      (mem_requiredMembers_iff accepts).mp among
    obtain ⟨target, annotated, rfl⟩ := Member.annotation?_of_eq_model_iff.mp model
    rw [className_mem_nativeNames_iff made]
    exact free datatype described property declared target annotated

/-- Every line that declares a required member has an annotation and a value. The
annotations of an accepted API tell the values, and no class is annotated as a native
type is, exactly if no property is annotated with a datatype that has the name of a
native type. -/
theorem annotationsTell_iff (made : Sdk.new config now = .ok sdk)
    (accepts : sdk.accept api = .ok accepted) :
    (∀ member ∈ requiredMembers sdk accepted.api,
      typing? member.declaration =
        some (member.type.render, member.type.initial.render)) ∧
    (AnnotationsTell sdk accepted.api ↔
      ∀ datatype ∈ api.datatypes, ∀ property ∈ datatype.properties,
        ∀ target ∈ property.annotated?, target ∉ nativeNames) := by
  constructor
  · intro member among
    exact typing?_of_mem accepts among
  · rw [← classes_iff made accepts]
    constructor
    · exact AnnotationsTell.classes
    · intro apart
      refine ⟨?_, apart⟩
      intro first among second also hint value other read readToo
      rw [typing?_of_mem accepts among, Option.some.injEq, Prod.mk.injEq] at read
      rw [typing?_of_mem accepts also, Option.some.injEq, Prod.mk.injEq] at readToo
      have same : first.type.initial = second.type.initial := by
        apply Script.MemberType.initial_eq_of_render_eq _ (read.1.trans readToo.1.symm)
        intro className model
        rcases model with model | model
        · exact apart first among className (model ▸ annotation?_of_mem among)
        · exact apart second also className (model ▸ annotation?_of_mem also)
      rw [← read.2, ← readToo.2, same]

end

/-- Classes whose names are close to those of native types, and a class with the name of
one that annotates nothing. -/
def nearNatives : ApiDescription where
  name := "Cloud"
  datatypes := [
    ⟨"Bool", [], none, none⟩,
    ⟨"Array", [], none, none⟩,
    ⟨"Holder", [
      ⟨"Flag", .boolean, none, false, none, none, none⟩,
      .referring "Choice" "Bool" none,
      .referring "Parts" "Array" (some .array),
      .referring "Places" "Bool" (some .map),
      ⟨"Rest", .complex "Array", none, true, none, none, none⟩,
      ⟨"Any", .object, none, false, none, none, none⟩], none, none⟩]
  calls := []
  errorList := []
  errors := .empty

theorem annotationsTell_iff_nearNatives :
    Sdk.new .standard standard.now = .ok standard ∧
      standard.accept nearNatives =
        .ok (standard.names.sanitizer.sanitize nearNatives) ∧
      AnnotationsTell standard (standard.names.sanitizer.sanitize nearNatives).api := by
  have accepts : standard.accept nearNatives =
      .ok (standard.names.sanitizer.sanitize nearNatives) :=
    accept_standard (by decide)
  exact ⟨new_standard, accepts,
    (annotationsTell_iff new_standard accepts).2.mpr (by decide +kernel)⟩

/-- A class with the name of a native type, a member of that class and one of that
type. -/
def nativeClass : ApiDescription where
  name := "Cloud"
  datatypes := [
    ⟨"Dictionary", [], none, none⟩,
    ⟨"Holder", [⟨"Meta", .object, none, false, none, none, none⟩,
      .referring "Inner" "Dictionary" none], none, none⟩]
  calls := []
  errorList := []
  errors := .empty

/-- The two members have one annotation and two first values. -/
theorem nativeClass_not_told :
    standard.accept nativeClass = .ok (standard.names.sanitizer.sanitize nativeClass) ∧
      (requiredMembers standard (standard.names.sanitizer.sanitize nativeClass).api).map
        (typing? ·.declaration) =
        [some ("Dictionary", "\x7b\x7d"), some ("Dictionary", "null")] ∧
      ¬ AnnotationsTell standard (standard.names.sanitizer.sanitize nativeClass).api :=
  by
  have accepts : standard.accept nativeClass =
      .ok (standard.names.sanitizer.sanitize nativeClass) :=
    accept_standard (by decide +kernel)
  refine ⟨accepts, by decide +kernel, ?_⟩
  intro tells
  exact absurd ((classes_iff new_standard accepts).mp tells.classes) (by decide)

end Sdk

end GodotSdk
