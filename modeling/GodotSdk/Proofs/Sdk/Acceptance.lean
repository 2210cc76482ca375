import GodotSdk.Proofs.Sdk.Plan

/-!
# What is accepted

The check of a description goes through its names in order and remembers those it has
seen. It passes exactly the descriptions whose names are identifiers, different from
each other where they are declared side by side, and whose references have a datatype.
-/

namespace GodotSdk

/-- The properties of a datatype can be declared side by side, and refer to none but the
given classes. -/
structure Datatype.Acceptable (classes : List String) (datatype : Datatype) : Prop where
  identifiers : ∀ property ∈ datatype.properties, Text.isIdentifier property.name = true
  distinct : (datatype.properties.map (·.name)).Nodup
  references : ∀ property ∈ datatype.properties,
    ∀ target, property.actualType = .complex target → target ∈ classes

/-- The names of a description can be declared, and its references have a datatype. -/
structure ApiDescription.Acceptable (api : ApiDescription) : Prop where
  identifier : Text.isIdentifier api.name = true
  classIdentifiers : ∀ datatype ∈ api.datatypes, Text.isIdentifier datatype.name = true
  distinctClasses : (api.datatypes.map (·.name)).Nodup
  datatypes : ∀ datatype ∈ api.datatypes,
    datatype.Acceptable (api.datatypes.map (·.name))
  methodIdentifiers : ∀ call ∈ api.calls,
    Text.isIdentifier (methodName call.name) = true
  distinctMethods : (api.calls.map fun call => methodName call.name).Nodup

/-- Names that are not among those seen before and different from each other. -/
def Fresh (seen names : List String) : Prop :=
  names.Nodup ∧ ∀ name ∈ names, name ∉ seen

theorem fresh_cons_iff {seen rest : List String} {name : String} :
    Fresh seen (name :: rest) ↔ name ∉ seen ∧ Fresh (name :: seen) rest := by
  simp only [Fresh, List.nodup_cons, List.mem_cons, forall_eq_or_imp, not_or]
  constructor
  · rintro ⟨⟨absent, nodup⟩, unseen, others⟩
    exact ⟨unseen, nodup,
      fun other member => ⟨fun same => absent (same ▸ member), others other member⟩⟩
  · rintro ⟨unseen, nodup, others⟩
    exact ⟨⟨fun member => (others name member).1 rfl, nodup⟩, unseen,
      fun other member => (others other member).2⟩

theorem fresh_nil_iff {names : List String} : Fresh [] names ↔ names.Nodup := by
  simp [Fresh]

theorem then_eq_ok_iff {ε β : Type} {first : Except ε Unit} {second : Except ε β}
    {result : β} :
    (first >>= fun _ => second) = .ok result ↔
      first = .ok () ∧ second = .ok result := by
  cases first <;> simp [bind, Except.bind]

theorem forM_eq_ok_iff {ε α : Type} {f : α → Except ε Unit} {values : List α} :
    values.forM f = .ok () ↔ ∀ value ∈ values, f value = .ok () := by
  induction values with
  | nil => simp [pure, Except.pure]
  | cons first rest ih =>
      simp only [List.forM, then_eq_ok_iff, ih, List.forall_mem_cons]

namespace ApiDescription

theorem checkDatatypes_eq_ok_iff {api : String} {seen : List String}
    {datatypes : List Datatype} :
    checkDatatypes api seen datatypes = .ok () ↔
      (∀ datatype ∈ datatypes, Text.isIdentifier datatype.name = true) ∧
        Fresh seen (datatypes.map (·.name)) := by
  induction datatypes generalizing seen with
  | nil => simp [checkDatatypes, Fresh]
  | cons datatype rest ih =>
      rw [List.map_cons, fresh_cons_iff]
      cases identifier : Text.isIdentifier datatype.name with
      | false => simp [checkDatatypes, identifier]
      | true =>
          by_cases repeated : datatype.name ∈ seen
          · simp [checkDatatypes, identifier, repeated]
          · simp [checkDatatypes, identifier, repeated, ih]

theorem refersTo_iff {classes : List String} {type : ActualType} :
    refersTo classes type = true ↔ ∀ target, type = .complex target →
      target ∈ classes := by
  cases type <;> simp [refersTo, ActualType.target?]

theorem checkProperties_eq_ok_iff {api : String} {classes : List String}
    {datatype : String} {seen : List String} {properties : List Property} :
    checkProperties api classes datatype seen properties = .ok () ↔
      (∀ property ∈ properties, Text.isIdentifier property.name = true) ∧
        Fresh seen (properties.map (·.name)) ∧
        ∀ property ∈ properties, refersTo classes property.actualType = true := by
  induction properties generalizing seen with
  | nil => simp [checkProperties, Fresh]
  | cons property rest ih =>
      rw [List.map_cons, fresh_cons_iff]
      cases identifier : Text.isIdentifier property.name with
      | false => simp [checkProperties, identifier]
      | true =>
          by_cases repeated : property.name ∈ seen
          · simp [checkProperties, identifier, repeated]
          · cases refers : refersTo classes property.actualType with
            | false => simp [checkProperties, identifier, repeated, refers]
            | true => simp [checkProperties, identifier, repeated, refers, ih]

theorem checkCalls_eq_ok_iff {api : String} {seen : List String}
    {calls : List ApiCall} :
    checkCalls api seen calls = .ok () ↔
      (∀ call ∈ calls, Text.isIdentifier (methodName call.name) = true) ∧
        Fresh seen (calls.map fun call => methodName call.name) := by
  induction calls generalizing seen with
  | nil => simp [checkCalls, Fresh]
  | cons call rest ih =>
      rw [List.map_cons, fresh_cons_iff]
      cases identifier : Text.isIdentifier (methodName call.name) with
      | false => simp [checkCalls, identifier]
      | true =>
          by_cases repeated : methodName call.name ∈ seen
          · simp [checkCalls, identifier, repeated]
          · simp [checkCalls, identifier, repeated, ih]

theorem check_eq_ok_iff {api : ApiDescription} :
    api.check = .ok () ↔ api.Acceptable := by
  unfold check
  cases identifier : Text.isIdentifier api.name with
  | false =>
      constructor
      · intro passed
        cases passed
      · intro acceptable
        simp [acceptable.identifier] at identifier
  | true =>
      simp only [Bool.not_true, Bool.false_eq_true, if_false, then_eq_ok_iff,
        forM_eq_ok_iff, checkDatatypes_eq_ok_iff, checkProperties_eq_ok_iff,
        checkCalls_eq_ok_iff, fresh_nil_iff, refersTo_iff]
      constructor
      · rintro ⟨⟨classIdentifiers, distinctClasses⟩, datatypes, methodIdentifiers,
          distinctMethods⟩
        refine ⟨identifier, classIdentifiers, distinctClasses, ?_, methodIdentifiers,
          distinctMethods⟩
        intro datatype member
        obtain ⟨identifiers, distinct, references⟩ := datatypes datatype member
        exact ⟨identifiers, distinct, references⟩
      · intro acceptable
        refine ⟨⟨acceptable.classIdentifiers, acceptable.distinctClasses⟩, ?_,
          acceptable.methodIdentifiers, acceptable.distinctMethods⟩
        intro datatype member
        have inside := acceptable.datatypes datatype member
        exact ⟨inside.identifiers, inside.distinct, inside.references⟩

end ApiDescription

theorem Sdk.acceptable_of_accept {sdk : Sdk} {api : ApiDescription}
    {accepted : Sanitized}
    (accepts : sdk.accept api = .ok accepted) : accepted.api.Acceptable :=
  ApiDescription.check_eq_ok_iff.mp (accept_eq_ok_iff.mp accepts).2

/-! ## What the standard SDK accepts -/

/-- A description with new names where `reserved` says so. -/
def ApiDescription.renamed (reserved : String → Bool) (brand : String)
    (api : ApiDescription) : ApiDescription :=
  let className (name : String) := if reserved name then branded brand name else name
  { api with datatypes := api.datatypes.map fun datatype => { datatype with
      name := className datatype.name
      properties := datatype.properties.map fun property => { property with
        name := if reserved property.name then suffixed property.name else property.name
        actualType := match property.actualType with
          | .complex target => .complex (className target)
          | type => type
        originalName :=
          if reserved property.name then some (property.originalName.getD property.name)
          else property.originalName } } }

theorem Sanitizer.sanitize_eq_renamed (sanitizer : Sanitizer) (api : ApiDescription) :
    (sanitizer.sanitize api).api =
      api.renamed sanitizer.reserved.contains sanitizer.brand :=
  rfl

/-- Whether the standard SDK accepts a description can be decided without the table of
engine classes, whose literals are slow to decode. -/
theorem Sdk.accept_standard {api : ApiDescription}
    (passes : (api.renamed ReservedNames.isEngineClass "PlayFab").check = .ok ()) :
    standard.accept api = .ok (standard.names.sanitizer.sanitize api) := by
  have same : (standard.names.sanitizer.sanitize api).api =
      api.renamed ReservedNames.isEngineClass "PlayFab" := by
    rw [Sanitizer.sanitize_eq_renamed, ← ReservedNames.contains_engineClasses]
    rfl
  exact accept_eq_ok_iff.mpr ⟨rfl, same ▸ passes⟩

end GodotSdk
