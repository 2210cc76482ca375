import GodotSdk.Proofs.Models.Filling
import Mathlib.Data.List.Basic
import Mathlib.Logic.Function.Basic
import Mathlib.Tactic.TFAE

/-!
# Writing models

The dictionary that a model is written to. Every member puts its value at its key, in a
local dictionary that hides a member of the same name. The dictionary holds what the
members hold exactly if no member has that name and no two of them have the same key,
and an accepted API may violate either.
-/

namespace GodotSdk.Script

/-! ## What members can hold -/

namespace MemberType

/-- Whether a variable with a type annotation can hold a value. One for a model may hold
null. -/
def admits : MemberType → Value → Bool
  | .bool, .bool _ => true
  | .int, .number (.int _) => true
  | .float, .number (.float _) => true
  | .string, .string _ => true
  | .array, .array _ => true
  | .dictionary, .dictionary _ => true
  | .model _, .null => true
  | .model className, .made other _ => other == className
  | _, _ => false

/-- Every type admits the value that its variables are declared with. -/
theorem admits_initial (type : MemberType) : type.admits type.initial.value = true := by
  cases type <;> rfl

/-- A value of a type that no variable is declared with. -/
def another : MemberType → Value
  | .bool => .bool true
  | .int => .number (.int 1)
  | .float => .number (.float ⟨false, 1, 0⟩)
  | .string => .string " "
  | .array => .array [.null]
  | .dictionary => .dictionary [("", .null)]
  | .model className => .made className []

theorem admits_another (type : MemberType) : type.admits type.another = true := by
  cases type <;> simp [admits, another]

theorem another_ne_initial (type : MemberType) : type.another ≠ type.initial.value := by
  cases type <;> simp [another, initial, Literal.value]

end MemberType

namespace Member

/-- Whether a member can hold a value. An optional one can hold every value. -/
def admits (member : Member) (value : Value) : Bool :=
  member.annotation?.all fun type => type.admits value

theorem admits_default (member : Member) : member.admits member.default = true := by
  unfold admits default initial
  cases member.annotation? with
  | none => rfl
  | some type => exact type.admits_initial

/-- No value is the only one that a member can hold. -/
theorem exists_admitted_ne (member : Member) (value : Value) :
    ∃ other, member.admits other = true ∧ other ≠ value := by
  unfold admits
  cases member.annotation? with
  | none =>
      by_cases same : value = .null
      · exact ⟨.bool true, rfl, by simp [same]⟩
      · exact ⟨.null, rfl, Ne.symm same⟩
  | some type =>
      by_cases same : value = type.another
      · refine ⟨type.initial.value, type.admits_initial, ?_⟩
        rw [same]
        exact type.another_ne_initial.symm
      · exact ⟨type.another, type.admits_another, Ne.symm same⟩

end Member

/-- Values, by the names of members, that the members can hold. -/
def Fits (members : List Member) (values : String → Value) : Prop :=
  ∀ member ∈ members, member.admits (values member.name) = true

section Assignments

variable {members : List Member} {values : String → Value}

/-- Members of different names can be given their first values. -/
theorem exists_fits (distinct : (members.map Member.name).Nodup) :
    ∃ values, Fits members values := by
  refine ⟨fun name => ((State.filling members []).members.lookup name).getD .null, ?_⟩
  intro member declared
  simp only [State.lookup_filling distinct [] declared, Option.getD_some]
  exact member.admits_default

/-- One member can be given another value that it admits. -/
theorem fits_update (distinct : (members.map Member.name).Nodup)
    (fits : Fits members values) {member : Member} (declared : member ∈ members)
    {value : Value} (admitted : member.admits value = true) :
    Fits members (Function.update values member.name value) := by
  intro other among
  by_cases same : other.name = member.name
  · obtain rfl := List.inj_on_of_nodup_map distinct among declared same
    rw [Function.update_self]
    exact admitted
  · rw [Function.update_of_ne same]
    exact fits other among

end Assignments

/-! ## Running the function -/

/-- The state of a function that belongs to a model, whose members hold the given
values. -/
def State.writing (members : List Member) (values : String → Value)
    (locals : List (String × Value)) : State where
  locals := locals
  members := members.map fun member => (member.name, values member.name)
  classes := []
  notified := []
  logged := []
  sent := []

/-- The state of that function once it has put entries into its dictionary. -/
def State.collecting (members : List Member) (values : String → Value)
    (entries : List (String × Value)) : State :=
  .writing members values [("result", .dictionary entries)]

namespace Member

/-- What a member puts into the dictionary, given the entries before: its value, or the
dictionary itself if that hides the member. -/
def stored (values : String → Value) (entries : List (String × Value))
    (member : Member) : Value :=
  -- A dictionary that stands in itself would go on to change with what is written after
  -- it. What is used below holds either way: that it is a dictionary, and that it does
  -- not depend on the hidden member.
  if member.name = "result" then .dictionary entries else values member.name

/-- The entries of the dictionary after a member. -/
def putInto (values : String → Value) (entries : List (String × Value))
    (member : Member) : List (String × Value) :=
  putEntry member.key (member.stored values entries) entries

end Member

/-- The entries of the dictionary that members are written to. -/
def writtenEntries (values : String → Value) (members : List Member) :
    List (String × Value) :=
  members.foldl (Member.putInto values) []

section Run

variable {members : List Member} {values : String → Value}
  {entries : List (String × Value)} {member : Member}

theorem lookup_collecting :
    (State.collecting members values entries).locals.lookup "result" =
      some (.dictionary entries) :=
  List.lookup_cons_self

theorem get?_collecting (declared : member ∈ members) :
    (State.collecting members values entries).get? member.name =
      some (member.stored values entries) := by
  unfold Member.stored
  split
  · next hidden =>
      rw [hidden]
      exact State.get?_of_local lookup_collecting
  · next visible =>
      have unbound : [("result", Value.dictionary entries)].lookup member.name =
          none := by
        simp [List.lookup_cons, beq_false_of_ne visible]
      have held : (members.map fun member => (member.name, values member.name)).lookup
          member.name = some (values member.name) := by
        have graph :=
          List.lookup_graph values (List.mem_map_of_mem (f := Member.name) declared)
        simpa [Function.comp_def] using graph
      simp only [State.get?, State.collecting, State.writing, unbound, held]

namespace Statement

/-- Storing a member changes the dictionary and nothing else. -/
theorem run_store (declared : member ∈ members) :
    member.store.run (.collecting members values entries) =
      (.collecting members values (member.putInto values entries), .next) := by
  have read : (State.collecting members values entries).eval (.variable member.name) =
      some (member.stored values entries) := by
    rw [State.eval, get?_collecting declared]
  have keyed : (State.collecting members values entries).eval (.text member.key) =
      some (.string member.key) := by
    rw [State.eval]
  rw [Member.store, run, read, Option.bind_some,
    State.store_index lookup_collecting keyed]
  simp [Value.setIndex?, State.proceed, State.assign, State.collecting, State.writing,
    putEntry, Member.putInto]

/-- Members are stored one after the other, each into the dictionary that the ones
before it have left. -/
theorem runAll_stores {rest : List Member}
    (declared : ∀ member ∈ rest, member ∈ members) :
    runAll (rest.map Member.store) (.collecting members values entries) =
      (.collecting members values (rest.foldl (Member.putInto values) entries),
        .next) := by
  induction rest generalizing entries with
  | nil => rfl
  | cons first rest ih =>
      rw [List.forall_mem_cons] at declared
      rw [List.map_cons, runAll_cons_of_next (run_store declared.1), ih declared.2,
        List.foldl_cons]

/-- The function that writes a model answers with the dictionary that its members were
put into. -/
theorem runAll_storeBody (members : List Member) (values : String → Value) :
    runAll (storeBody members) (.writing members values []) =
      (.collecting members values (writtenEntries values members),
        .answered (.dictionary (writtenEntries values members))) := by
  have declares :
      (Statement.declare "result" .emptyDictionary).run (.writing members values []) =
      (.collecting members values [], .next) := by
    rw [run, State.eval]
    rfl
  have stores : runAll (members.map Member.store) (.collecting members values []) =
      (.collecting members values (writtenEntries values members), .next) :=
    runAll_stores fun _ declared => declared
  rw [storeBody, runAll_cons_of_next declares, runAll_append_of_next _ _ stores,
    runAll_singleton, run, State.eval, State.get?_of_local lookup_collecting]

end Statement

end Run

/-! ## The dictionary -/

section Entries

variable {members : List Member} {values : String → Value}
  {entries : List (String × Value)} {key : String}

/-- The keys of the dictionary are those of the members. -/
theorem mem_keys_foldl_putInto :
    key ∈ (members.foldl (Member.putInto values) entries).map Prod.fst ↔
      key ∈ entries.map Prod.fst ∨ key ∈ members.map Member.key := by
  induction members generalizing entries with
  | nil => simp
  | cons first rest ih =>
      rw [List.foldl_cons, ih, Member.putInto, putEntry_keys, List.map_cons,
        List.mem_cons]
      split
      · next present =>
          constructor
          · rintro (before | after)
            · exact .inl before
            · exact .inr (.inr after)
          · rintro (before | rfl | after)
            · exact .inl before
            · exact .inl present
            · exact .inr after
      · rw [List.mem_append, List.mem_singleton, or_assoc]

theorem mem_keys_writtenEntries :
    key ∈ (writtenEntries values members).map Prod.fst ↔
      key ∈ members.map Member.key := by
  simp [writtenEntries, mem_keys_foldl_putInto]

/-- Members of other keys leave an entry as it is. -/
theorem lookup_foldl_putInto (absent : key ∉ members.map Member.key) :
    (members.foldl (Member.putInto values) entries).lookup key =
      entries.lookup key := by
  induction members generalizing entries with
  | nil => rfl
  | cons first rest ih =>
      rw [List.map_cons, List.mem_cons, not_or] at absent
      rw [List.foldl_cons, ih absent.2, Member.putInto, lookup_putEntry,
        if_neg absent.1]

/-- Where no two members have the same key, what a member has put into the dictionary
stays there. -/
theorem exists_lookup_foldl_putInto (values : String → Value)
    (entries : List (String × Value)) (distinct : (members.map Member.key).Nodup)
    {member : Member} (declared : member ∈ members) :
    ∃ before, (members.foldl (Member.putInto values) entries).lookup member.key =
      some (member.stored values before) := by
  induction members generalizing entries with
  | nil => cases declared
  | cons first rest ih =>
      rw [List.map_cons, List.nodup_cons] at distinct
      rcases List.mem_cons.mp declared with rfl | declared
      · refine ⟨entries, ?_⟩
        rw [List.foldl_cons, lookup_foldl_putInto distinct.1, Member.putInto,
          lookup_putEntry, if_pos rfl]
      · exact ih (first.putInto values entries) distinct.2 declared

/-- The value of a hidden member does not reach the dictionary. -/
theorem writtenEntries_update_hidden (value : Value) :
    writtenEntries (Function.update values "result" value) members =
      writtenEntries values members := by
  have same : Member.putInto (Function.update values "result" value) =
      Member.putInto values := by
    funext entries member
    have stored : member.stored (Function.update values "result" value) entries =
        member.stored values entries := by
      unfold Member.stored
      split
      · rfl
      · next visible => exact Function.update_of_ne visible value values
    rw [Member.putInto, Member.putInto, stored]
  rw [writtenEntries, writtenEntries, same]

end Entries

/-! ## Members that are written as they are -/

/-- The dictionary holds the value of every member at its key. -/
def WrittenRight (members : List Member) (values : String → Value) : Prop :=
  ∀ member ∈ members, (writtenEntries values members).lookup member.key =
    some (values member.name)

section Members

variable {members : List Member} {values : String → Value}

theorem writtenRight_of_visible (visible : ∀ member ∈ members, member.name ≠ "result")
    (distinct : (members.map Member.key).Nodup) (values : String → Value) :
    WrittenRight members values := by
  intro member declared
  obtain ⟨before, found⟩ := exists_lookup_foldl_putInto values [] distinct declared
  rw [writtenEntries, found, Member.stored, if_neg (visible member declared)]

/-- Members with one key can only be written right if they hold the same value. -/
theorem eq_of_writtenRight (right : WrittenRight members values) {first second : Member}
    (declared : first ∈ members)
    (also : second ∈ members) (shared : first.key = second.key) :
    values first.name = values second.name := by
  have found := right first declared
  rw [shared, right second also] at found
  exact (Option.some.inj found).symm

/-- A member that the dictionary hides, at a key of its own, can only be written right
if it holds a dictionary. -/
theorem exists_dictionary_of_hidden (distinct : (members.map Member.key).Nodup)
    (right : WrittenRight members values) {member : Member}
    (declared : member ∈ members) (hidden : member.name = "result") :
    ∃ entries, values member.name = .dictionary entries := by
  obtain ⟨before, found⟩ := exists_lookup_foldl_putInto values [] distinct declared
  have expected := right member declared
  rw [writtenEntries, found, Member.stored, if_pos hidden] at expected
  exact ⟨before, (Option.some.inj expected).symm⟩

/-- A member that the dictionary hides is written wrong as soon as it holds something
else. -/
theorem visible_of_writtenRight (distinct : (members.map Member.name).Nodup)
    (right : ∀ values, Fits members values → WrittenRight members values) :
    ∀ member ∈ members, member.name ≠ "result" := by
  intro member declared hidden
  obtain ⟨values, fits⟩ := exists_fits distinct
  obtain ⟨other, admitted, different⟩ := member.exists_admitted_ne (values member.name)
  have before := right values fits member declared
  have after := right _ (fits_update distinct fits declared admitted) member declared
  rw [Function.update_self, hidden, writtenEntries_update_hidden, before] at after
  exact different (Option.some.inj after).symm

/-- Of two members with one key, one is written wrong as soon as they hold different
values. -/
theorem nodup_keys_of_writtenRight (distinct : (members.map Member.name).Nodup)
    (right : ∀ values, Fits members values → WrittenRight members values) :
    (members.map Member.key).Nodup := by
  apply List.Nodup.map_on _ (List.Nodup.of_map Member.name distinct)
  intro first declared second also shared
  apply List.inj_on_of_nodup_map distinct declared also
  by_contra apart
  obtain ⟨values, fits⟩ := exists_fits distinct
  obtain ⟨other, admitted, different⟩ := first.exists_admitted_ne (values second.name)
  have written := right _ (fits_update distinct fits declared admitted)
  have same := eq_of_writtenRight written declared also shared
  rw [Function.update_self, Function.update_of_ne (Ne.symm apart)] at same
  exact different same

end Members

/-! ## Writing to a dictionary -/

/-- The function that writes a model of a datatype answers with a dictionary that has
the value of the member of every property at the key of the property, and no other keys.
-/
def Writes (sdk : Sdk) (datatype : Datatype) (values : String → Value) : Prop :=
  let members := modelMembers sdk (sdk.names.sanitizer.datatype datatype)
  ∃ after entries,
    Statement.runAll (storeBody members) (.writing members values []) =
      (after, .answered (.dictionary entries)) ∧ (∀ property ∈ datatype.properties,
        entries.lookup property.wireName =
        some (values (Member.of sdk.names.sanitizer property).name)) ∧
      ∀ key ∈ entries.map Prod.fst, key ∈ datatype.properties.map Property.wireName

theorem map_key_of (sanitizer : Sanitizer) (properties : List Property) :
    (properties.map (Member.of sanitizer)).map Member.key =
      properties.map Property.wireName := by
  rw [List.map_map]
  exact List.map_congr_left fun property _ => Member.key_of sanitizer property

theorem writes_iff_writtenRight {sdk : Sdk} {datatype : Datatype}
    {values : String → Value} :
    Writes sdk datatype values ↔
      WrittenRight (datatype.properties.map (Member.of sdk.names.sanitizer))
      values := by
  rw [WrittenRight, List.forall_mem_map]
  simp only [Writes, modelMembers_datatype, Statement.runAll_storeBody, Member.key_of]
  constructor
  · rintro ⟨after, entries, answered, found, _⟩
    simp only [Prod.mk.injEq, Ending.answered.injEq, Value.dictionary.injEq] at answered
    rw [answered.2]
    exact found
  · intro found
    refine ⟨_, _, rfl, found, ?_⟩
    intro key present
    rw [mem_keys_writtenEntries, map_key_of] at present
    exact present

section Accepted

variable {config : Config} {now : Timestamp} {sdk : Sdk} {api : ApiDescription}
  {accepted : Sanitized}
  {datatype : Datatype}

/-- A member has the name of the local dictionary only if its property has it, since
that name is not reserved. -/
theorem name_eq_result_iff (made : Sdk.new config now = .ok sdk) (property : Property) :
    (Member.of sdk.names.sanitizer property).name = "result" ↔
      property.name = "result" := by
  apply Member.name_of_eq_iff
  · rw [Sanitizer.isReserved, Sdk.reserved_of_new made,
      ReservedNames.contains_engineClasses]
    decide
  · decide

/-- The models of a class are written right, whatever their members hold, exactly if
they are written right whenever the members hold values of their types, and exactly if
no property has the name of the local dictionary and no two properties have the same
key. -/
theorem writes_tfae (made : Sdk.new config now = .ok sdk)
    (accepts : sdk.accept api = .ok accepted) (described : datatype ∈ api.datatypes) :
    [∀ values, Writes sdk datatype values,
      ∀ values, Fits (datatype.properties.map (Member.of sdk.names.sanitizer)) values →
        Writes sdk datatype values,
      (∀ property ∈ datatype.properties, property.name ≠ "result") ∧
        (datatype.properties.map Property.wireName).Nodup].TFAE := by
  have names := nodup_members accepts described
  have apart : (∀ member ∈ datatype.properties.map (Member.of sdk.names.sanitizer),
      member.name ≠ "result") ↔
      ∀ property ∈ datatype.properties, property.name ≠ "result" := by
    simp only [List.forall_mem_map, ne_eq, name_eq_result_iff made]
  simp only [writes_iff_writtenRight, ← apart, ← map_key_of sdk.names.sanitizer]
  tfae_have 1 → 2 := fun right values _ => right values
  tfae_have 2 → 3 := fun right =>
    ⟨visible_of_writtenRight names right, nodup_keys_of_writtenRight names right⟩
  tfae_have 3 → 1 := fun ⟨visible, keys⟩ => writtenRight_of_visible visible keys
  tfae_finish

end Accepted

/-- An API with one class of texts, whose properties have the given names, and first
names if they had others. -/
def textsClass (properties : List (String × Option String)) : ApiDescription :=
  ⟨"Cloud",
    [⟨"Payload", properties.map fun (name, first) =>
      ⟨name, .string, none, false, none, none, first⟩, none, none⟩],
    [], [], .empty⟩

/-- Names that are close to that of the dictionary, one with that name for its key, and
one that is reserved. -/
def visibleResults : ApiDescription :=
  textsClass [("Result", none), ("result_", some "result"), ("Thread", none)]

theorem writes_tfae_visibleResults :
    Sdk.new .standard Sdk.standard.now = .ok .standard ∧
      Sdk.standard.accept visibleResults =
        .ok (Sdk.standard.names.sanitizer.sanitize visibleResults) ∧
      visibleResults.datatypes[0] ∈ visibleResults.datatypes ∧
      ∀ values, Writes .standard visibleResults.datatypes[0] values := by
  have accepts : Sdk.standard.accept visibleResults =
      .ok (Sdk.standard.names.sanitizer.sanitize visibleResults) :=
    Sdk.accept_standard (by decide +kernel)
  have described : visibleResults.datatypes[0] ∈ visibleResults.datatypes :=
    List.getElem_mem _
  have visible : ∀ property ∈ visibleResults.datatypes[0].properties,
      property.name ≠ "result" := by decide
  have distinct :
      (visibleResults.datatypes[0].properties.map Property.wireName).Nodup := by decide
  have written := (writes_tfae Sdk.new_standard accepts described).out 0 2
  exact ⟨Sdk.new_standard, accepts, described, written.mpr (And.intro visible distinct)⟩

/-- A property with the name of the dictionary. -/
def hiddenResult : ApiDescription :=
  textsClass [("result", none), ("Id", none)]

/-- A property with the name of another one for its key. -/
def sharedKey : ApiDescription :=
  textsClass [("Id", none), ("Alias", some "Id")]

/-- With its own name in every member, neither model is written right: the dictionary of
the first one stands in itself in place of the text, and that of the second one has lost
a text to the other one. -/
theorem hiddenResult_sharedKey_not_written :
    (Sdk.standard.accept hiddenResult =
      .ok (Sdk.standard.names.sanitizer.sanitize hiddenResult) ∧
        ¬ Writes .standard hiddenResult.datatypes[0] Value.string) ∧
      Sdk.standard.accept sharedKey =
        .ok (Sdk.standard.names.sanitizer.sanitize sharedKey) ∧
        ¬ Writes .standard sharedKey.datatypes[0] Value.string := by
  refine ⟨⟨Sdk.accept_standard (by decide +kernel), ?_⟩,
    Sdk.accept_standard (by decide +kernel), ?_⟩
  · rw [writes_iff_writtenRight]
    intro right
    have distinct :
        ((hiddenResult.datatypes[0].properties.map (Member.of .standard)).map
          Member.key).Nodup := by
      rw [map_key_of]
      decide
    have hidden : (Member.of .standard hiddenResult.datatypes[0].properties[0]).name =
        "result" :=
      (name_eq_result_iff Sdk.new_standard _).mpr rfl
    obtain ⟨entries, same⟩ :=
      exists_dictionary_of_hidden distinct right
        (List.mem_map_of_mem (List.getElem_mem _)) hidden
    cases same
  · rw [writes_iff_writtenRight]
    intro right
    have shared : (Member.of .standard sharedKey.datatypes[0].properties[0]).key =
        (Member.of .standard sharedKey.datatypes[0].properties[1]).key := by
      rw [Member.key_of, Member.key_of]
      rfl
    have different : (Member.of .standard sharedKey.datatypes[0].properties[0]).name ≠
        (Member.of .standard sharedKey.datatypes[0].properties[1]).name := by
          decide +kernel
    have same := eq_of_writtenRight right (List.mem_map_of_mem (List.getElem_mem _))
      (List.mem_map_of_mem (List.getElem_mem _)) shared
    exact different (Value.string.inj same)

end GodotSdk.Script
