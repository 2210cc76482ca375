import GodotSdk.Proofs.Schema.Encoding
import GodotSdk.Schema.Description

/-!
# Descriptions written and read back

Every type in a description that was read is what its own name denotes, since it was
found by a name. So the text that is written for such a description is read back as the
same description, with its lists and maps in the same order.
-/

namespace GodotSdk

theorem ActualType.isNamed_ofName (name : String) : (ofName name).IsNamed := by
  have same : (ofName name).name = name := by
    rw [ofName]
    cases found : primitives.find? (·.name == name) with
    | none => rfl
    | some type => simpa using List.find?_some found
  rw [IsNamed, same]

namespace Schema

/-! ## Types that were read -/

variable {ν : Type} [Source ν] {node : ν}

theorem isNamed_of_readProperty {property : Property}
    (read : readProperty node = .ok property) :
    property.actualType.IsNamed := by
  obtain ⟨parts, filled, same⟩ := bind_eq_ok_iff.mp read
  obtain rfl := Except.ok.inj same
  have keeps : ∀ field ∈ @propertyFields ν _,
      Keeps (fun parts => ∀ type ∈ parts.actualType, type.IsNamed) field := by
    simp only [propertyFields, List.forall_mem_cons]
    refine ⟨keeps_required fun _ _ _ _ holds => holds, keeps_required ?type,
      keeps_defaulted fun _ _ _ _ holds => holds,
      keeps_defaulted fun _ _ _ _ holds => holds,
      keeps_defaulted fun _ _ _ _ holds => holds,
      keeps_defaulted fun _ _ _ _ holds => holds, keeps_defaulted fun _ _ _ _ holds =>
        holds, nofun⟩
    intro node type parts read _
    obtain ⟨name, -, same⟩ := bind_eq_ok_iff.mp read
    obtain rfl := Except.ok.inj same
    simpa using ActualType.isNamed_ofName name
  have named := readRecord_keeps keeps (by simp) filled
  show (parts.actualType.getD .boolean).IsNamed
  cases given : parts.actualType with
  | none => rfl
  | some type => exact named type given

/-- Whether all types in a datatype are what their own names denote. -/
def TypesNamed (datatype : Datatype) : Prop :=
  ∀ property ∈ datatype.properties, property.actualType.IsNamed

theorem typesNamed_of_readDatatype {datatype : Datatype}
    (read : readDatatype node = .ok datatype) :
    TypesNamed datatype := by
  obtain ⟨parts, filled, same⟩ := bind_eq_ok_iff.mp read
  obtain rfl := Except.ok.inj same
  have keeps : ∀ field ∈ @datatypeFields ν _,
      Keeps (fun parts => ∀ properties ∈ parts.properties, ∀ property ∈ properties,
        property.actualType.IsNamed) field := by
    simp only [datatypeFields, List.forall_mem_cons]
    refine ⟨keeps_required fun _ _ _ _ holds => holds, keeps_defaulted ?properties,
      keeps_defaulted fun _ _ _ _ holds => holds, keeps_defaulted fun _ _ _ _ holds =>
        holds, nofun⟩
    intro node properties parts read _
    simpa using forall_of_readList (fun _ _ => isNamed_of_readProperty) read
  have named := readRecord_keeps keeps (by simp) filled
  show ∀ property ∈ parts.properties.getD [], property.actualType.IsNamed
  cases given : parts.properties with
  | none => simp
  | some properties => exact named properties given

theorem typesNamed_of_datatypesOf {datatypes : List Datatype}
    (read : datatypesOf node = .ok datatypes) :
    ∀ datatype ∈ datatypes, TypesNamed datatype := by
  rw [datatypesOf] at read
  split at read
  · next listed =>
      obtain rfl := Except.ok.inj read
      exact forall_of_readList (fun _ _ => typesNamed_of_readDatatype) listed
  · split at read
    · next entries given =>
        obtain rfl := Except.ok.inj read
        obtain ⟨items, -, given⟩ := bind_eq_ok_iff.mp given
        have named :=
          forall_of_readEntries (fun _ _ => typesNamed_of_readDatatype) given
        exact List.forall_mem_map.mpr (OrderedMap.forall_mem_ofList named)
    · cases read

theorem isNamed_of_readApiDescription {api : ApiDescription}
    (read : readApiDescription node = .ok api) :
    ∀ type ∈ api.types, type.IsNamed := by
  obtain ⟨parts, filled, same⟩ := bind_eq_ok_iff.mp read
  obtain rfl := Except.ok.inj same
  have keeps : ∀ field ∈ apiDescriptionFields (@readDatatypes ν _),
      Keeps (fun parts => ∀ datatypes ∈ parts.datatypes, ∀ datatype ∈ datatypes,
        TypesNamed datatype) field := by
    simp only [apiDescriptionFields, List.forall_mem_cons]
    refine ⟨keeps_required fun _ _ _ _ holds => holds, keeps_defaulted ?datatypes,
      keeps_defaulted fun _ _ _ _ holds => holds,
      keeps_defaulted fun _ _ _ _ holds => holds,
      keeps_defaulted fun _ _ _ _ holds => holds, nofun⟩
    intro node datatypes parts read _
    obtain ⟨content, -, read⟩ := bind_eq_ok_iff.mp read
    simpa using typesNamed_of_datatypesOf read
  have named := readRecord_keeps keeps (by simp) filled
  intro type member
  obtain ⟨datatype, listed, typed⟩ := List.mem_flatMap.mp member
  obtain ⟨property, declared, rfl⟩ := List.mem_map.mp typed
  have listed : datatype ∈ parts.datatypes.getD [] := listed
  cases given : parts.datatypes with
  | none => simp [given] at listed
  | some datatypes =>
      exact named datatypes given datatype (by simpa [given] using listed)
        property declared

end Schema

/-! ## Descriptions written and read back -/

open Schema

variable {text : String} {api : ApiDescription}

theorem isNamed_of_ofJson (read : ApiDescription.ofJson text = .ok api) :
    ∀ type ∈ api.types, type.IsNamed := by
  obtain ⟨found, decoded, read⟩ := bind_eq_ok_iff.mp read
  split at read
  · cases read
  · obtain rfl := Except.ok.inj read
    exact isNamed_of_readApiDescription (mapError_eq_ok_iff.mp decoded)

theorem isNamed_of_ofYaml (read : ApiDescription.ofYaml text = .ok api) :
    ∀ type ∈ api.types, type.IsNamed := by
  rw [ApiDescription.ofYaml] at read
  split at read
  · exact isNamed_of_readApiDescription (mapError_eq_ok_iff.mp read)
  · cases read

theorem ofJson_render {depth : Nat} {value : Json.Value} (whole : value.Whole depth) :
    ApiDescription.ofJson value.render =
      (readApiDescription (Json.Draft.ofValue value)).mapError .json := by
  rw [ApiDescription.ofJson, Json.Document.ofText_render whole]
  cases readApiDescription (Json.Draft.ofValue value) <;> rfl

/-- A description can be read if its types are what their names denote and its dates
have years of four digits. -/
theorem ofJson_encodeDescription (named : ∀ type ∈ api.types, type.IsNamed)
    (plain : ∀ part ∈ api.deprecations, ∀ date ∈ part.deprecatedAfter,
      date.hasPlainYear) :
    ApiDescription.ofJson (encodeDescription api).render = .ok api := by
  rw [ofJson_render (whole_description api : Json.Value.Whole 6 _),
    readApiDescription_encode named plain]
  rfl

/-- A description that was read from a text in JSON or YAML is written as a text from
which the same description is read, provided that the years of its dates have four
digits. -/
theorem ofJson_render_of_read
    (read : (∃ text, ApiDescription.ofJson text = .ok api) ∨
      ∃ text, ApiDescription.ofYaml text = .ok api)
    (plain : ∀ part ∈ api.deprecations,
      ∀ date ∈ part.deprecatedAfter, 0 ≤ date.date.year ∧ date.date.year ≤ 9999) :
    ApiDescription.ofJson (encodeDescription api).render = .ok api := by
  have named : ∀ type ∈ api.types, type.IsNamed := by
    rcases read with ⟨text, read⟩ | ⟨text, read⟩
    · exact isNamed_of_ofJson read
    · exact isNamed_of_ofYaml read
  rw [ofJson_render (whole_description api : Json.Value.Whole 6 _),
    readApiDescription_encode named plain]
  rfl

/-- A value of a description that is not as it would be written: its datatypes are a
map, some of its members say nothing or come late, and its date is not in UTC. -/
def looseValue : Json.Value :=
  .object [("errors",
    .object [("Gone",
      .object [("id", .number (.int (-7))), ("name", .string "SoldOut")])]),
    ("name", .string "Shop"),
    ("datatypes",
      .object [("Item", .object [("name", .string "Ware"), ("description", .null),
      ("properties",
        .array [.object [("actualtype", .string "String"), ("name", .string "Tags"),
        ("collection", .string "array"),
        ("deprecation",
          .object [("DeprecatedAfter", .string "2024-02-29T00:30:00+01:00")])]])])]),
    ("calls", .array [.object [("url", .string "/Shop/Buy"), ("name", .string "Buy"),
      ("auth", .string "SecretKey")]])]

/-- The description in `looseValue`. -/
def looseDescription : ApiDescription where
  name := "Shop"
  datatypes := [⟨"Ware", [⟨"Tags", .string, some .array, false, none,
    some ⟨none, some ⟨⟨2024, 2, 28, by decide⟩, 84600, 0, by decide⟩⟩, none⟩],
    none, none⟩]
  calls := [⟨"Buy", "/Shop/Buy", none, none, .secretKey, none, none⟩]
  errorList := []
  errors := ⟨[("Gone", ⟨"SoldOut", -7⟩)], by decide⟩

theorem ofJson_looseValue :
    ApiDescription.ofJson looseValue.render = .ok looseDescription := by
  have whole : looseValue.Whole 6 := by
    unfold looseValue
    repeat' first
      | exact .null
      | exact .string _
      | exact .int (by decide) (by decide)
      | apply Json.Value.Whole.object
      | apply Json.Value.Whole.array
      | exact List.forall_mem_nil _
      | refine List.forall_mem_cons.mpr ⟨?_, ?_⟩
  rw [ofJson_render whole]
  rfl

theorem ofJson_render_of_read_loose :
    ApiDescription.ofJson (encodeDescription looseDescription).render =
      .ok looseDescription :=
  ofJson_render_of_read (.inl ⟨_, ofJson_looseValue⟩) (by decide)

end GodotSdk
