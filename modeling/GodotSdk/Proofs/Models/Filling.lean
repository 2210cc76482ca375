import GodotSdk.Proofs.Naming.Frame
import GodotSdk.Proofs.Script.Run
import GodotSdk.Proofs.Sdk.Acceptance
import GodotSdk.Script.Api
import Mathlib.Data.List.Nodup

/-!
# Filling models

What the members of a model hold once it is filled from a dictionary. Its function has
one parameter of its own, which hides a member of the same name. The members take the
values at their keys exactly if none of them has the name of that parameter, which an
accepted API does not rule out.
-/

namespace GodotSdk

/-! ## Members of a sanitized datatype -/

theorem suffixed_ne_of_last {name other : String}
    (last : other.toList.getLast? ≠ some '_') :
    suffixed name ≠ other := by
  rintro rfl
  simp [suffixed] at last

namespace Sanitizer

variable {sanitizer : Sanitizer}

/-- A member gets a name that is not reserved, and that no underscore ends, only if a
property has it. -/
theorem propertyName_eq_iff_of_free {name target : String}
    (free : sanitizer.isReserved target = false)
    (last : target.toList.getLast? ≠ some '_') :
    sanitizer.propertyName name = target ↔ name = target := by
  constructor
  · unfold propertyName
    split
    · intro same
      exact absurd same (suffixed_ne_of_last last)
    · exact id
  · intro same
    rw [same, sanitizer.propertyName_of_free free]

theorem propertyName_mem_iff_of_free {targets : List String} {name : String}
    (free : ∀ target ∈ targets, sanitizer.isReserved target = false)
    (last : ∀ target ∈ targets, target.toList.getLast? ≠ some '_') :
    sanitizer.propertyName name ∈ targets ↔ name ∈ targets := by
  constructor
  · intro member
    rwa [(propertyName_eq_iff_of_free (free _ member) (last _ member)).mp rfl]
  · intro member
    rwa [sanitizer.propertyName_of_free (free name member)]

end Sanitizer

namespace Script

/-- The member that a property of a description becomes once the description is
sanitized. -/
def Member.of (sanitizer : Sanitizer) (property : Property) : Member :=
  ⟨sanitizer, sanitizer.property property⟩

@[simp] theorem Member.name_of (sanitizer : Sanitizer) (property : Property) :
    (Member.of sanitizer property).name = sanitizer.propertyName property.name :=
  sanitizer.propertyName_propertyName property.name

/-- A name that is not reserved, and that no underscore ends, is the name of a member
only if a property has it. -/
theorem Member.name_of_eq_iff {sanitizer : Sanitizer} {property : Property}
    {name : String} (free : sanitizer.isReserved name = false)
    (last : name.toList.getLast? ≠ some '_') :
    (Member.of sanitizer property).name = name ↔ property.name = name := by
  rw [Member.name_of, Sanitizer.propertyName_eq_iff_of_free free last]

@[simp] theorem Member.key_of (sanitizer : Sanitizer) (property : Property) :
    (Member.of sanitizer property).key = property.wireName :=
  sanitizer.wireName_property property

theorem modelMembers_datatype (sdk : Sdk) (datatype : Datatype) :
    modelMembers sdk (sdk.names.sanitizer.datatype datatype) =
      datatype.properties.map (Member.of sdk.names.sanitizer) := by
  simp [modelMembers, Sanitizer.datatype, Member.of, Function.comp_def]

/-! ## The state of a model -/

/-- The value that a literal stands for. -/
def Literal.value : Literal → Value
  | .null => .null
  | .false => .bool Bool.false
  | .zero => .number (.int 0)
  | .zeroFloat => .number (.float ⟨Bool.false, 0, 0⟩)
  | .emptyString => .string ""
  | .emptyArray => .array []
  | .emptyDictionary => .dictionary []

/-- No literal stands for the truth value `true`. -/
theorem Literal.value_ne_true (literal : Literal) :
    literal.value ≠ .bool Bool.true := by
  cases literal <;> simp [Literal.value]

/-- The value that a member is declared with. -/
def Member.default (member : Member) : Value :=
  member.initial.value

/-- The state at the start of the function that fills a model from a dictionary. -/
def State.filling (members : List Member) (data : List (String × Value)) : State where
  locals := [("data", .dictionary data)]
  members := members.map fun member => (member.name, member.default)
  classes := []
  notified := []
  logged := []
  sent := []

namespace State

variable {state after : State} {name : String} {value old : Value}
  {hidden : Option Value}

theorem leave_of_length {before : State}
    (same : state.locals.length = before.locals.length) :
    state.leave before = state := by
  simp [leave, same]

theorem set?_of_member (free : state.locals.lookup name = none)
    (found : state.members.lookup name = some old) :
    state.set? name value =
      some { state with members := putEntry name value state.members } := by
  simp [set?, free, found]

/-- Members of different names are declared with their own values. -/
theorem lookup_filling {members : List Member}
    (distinct : (members.map Member.name).Nodup) (data : List (String × Value))
    {member : Member} (declared : member ∈ members) :
    (filling members data).members.lookup member.name = some member.default := by
  simp only [filling]
  induction members with
  | nil => cases declared
  | cons first rest ih =>
      rw [List.map_cons, List.nodup_cons] at distinct
      rw [List.map_cons, lookup_entry]
      rcases List.mem_cons.mp declared with rfl | declared
      · rw [if_pos rfl]
      · have different : member.name ≠ first.name :=
          ne_of_mem_of_not_mem (List.mem_map_of_mem declared) distinct.1
        rw [if_neg different, ih distinct.2 declared]

/-- A variable of the function hides the member of its name, which has a value of its
own. -/
structure Hides (state : State) (name : String) (hidden : Option Value) : Prop where
  bound : (state.locals.lookup name).isSome = true
  kept : state.members.lookup name = hidden

/-- No assignment reaches a hidden member. -/
theorem Hides.set? (hides : state.Hides name hidden) {target : String}
    (assigned : state.set? target value = some after) :
    after.Hides name hidden ∧ after.locals.length = state.locals.length := by
  unfold State.set? at assigned
  split at assigned
  · next found =>
      obtain rfl := Option.some.inj assigned
      refine ⟨⟨?_, hides.kept⟩, length_putEntry value found⟩
      rw [lookup_putEntry]
      split
      · rfl
      · exact hides.bound
  · next free =>
      split at assigned
      · obtain rfl := Option.some.inj assigned
        have different : name ≠ target := by
          rintro rfl
          exact free hides.bound
        refine ⟨⟨hides.bound, ?_⟩, rfl⟩
        simp [lookup_putEntry, different, hides.kept]
      · cases assigned

end State

/-! ## Loading members -/

namespace Statement

open State

section Visible

variable {state : State} {data : List (String × Value)} {member : Member} {old : Value}

/-- Loading a member that nothing hides gives it the value at its key, if there is one,
and changes no other. -/
theorem run_load (sees : state.locals = [("data", .dictionary data)])
    (visible : member.name ≠ "data")
    (declared : state.members.lookup member.name = some old) :
    ∃ after, member.load.run state = (after, .next) ∧ after.locals = state.locals ∧
      ∀ name, after.members.lookup name =
        if name = member.name then some ((data.lookup member.key).getD old)
        else state.members.lookup name := by
  have parameter : state.locals.lookup "data" = some (.dictionary data) := by
    simp [sees]
  have tested : state.eval (.invoke (.variable "data") "has" [.text member.key]) =
      some (.bool (data.lookup member.key).isSome) := by
    simp [eval, evalAll, get?_of_local parameter, Value.method?]
  have taken : state.eval (.index (.variable "data") (.text member.key)) =
      data.lookup member.key := by
    simp [eval, get?_of_local parameter, Value.index?]
  have free : state.locals.lookup member.name = none := by
    simp [sees, List.lookup_cons, beq_false_of_ne visible]
  rw [Member.load, run_when tested]
  cases found : data.lookup member.key with
  | none =>
      refine ⟨state, by simp, rfl, fun name => ?_⟩
      split
      · next same => simp [same, declared]
      · rfl
  | some value =>
      have ran : (Statement.assign (.variable member.name)
          (.index (.variable "data") (.text member.key))).run state =
            ({ state with members := putEntry member.name value state.members },
              .next) := by
        rw [run, taken, found]
        simp [State.store, set?_of_member free declared, proceed]
      refine ⟨{ state with members := putEntry member.name value state.members }, ?_,
        rfl, fun name => ?_⟩
      · rw [runAll_singleton, ran]
        simp [leave_of_length]
      · simp [lookup_putEntry]

/-- Members that nothing hides are loaded one after the other, each with the value at
its own key. -/
theorem runAll_loads {members : List Member}
    (sees : state.locals = [("data", .dictionary data)])
    (visible : ∀ member ∈ members, member.name ≠ "data")
    (distinct : (members.map Member.name).Nodup)
    (declared : ∀ member ∈ members, state.members.lookup member.name =
      some member.default) :
    ∃ after, runAll (members.map Member.load) state = (after, .next) ∧
      (∀ name, name ∉ members.map Member.name →
        after.members.lookup name = state.members.lookup name) ∧ ∀ member ∈ members,
        after.members.lookup member.name =
          some ((data.lookup member.key).getD member.default) := by
  -- The members still to come keep their first values, since their names differ from
  -- those already loaded.
  induction members generalizing state with
  | nil => exact ⟨state, rfl, fun _ _ => rfl, by simp⟩
  | cons first rest ih =>
      rw [List.map_cons, List.nodup_cons] at distinct
      rw [List.forall_mem_cons] at visible declared
      obtain ⟨next, ran, seen, stored⟩ := run_load sees visible.1 declared.1
      have others : ∀ member ∈ rest, next.members.lookup member.name =
          some member.default := by
        intro member among
        have different : member.name ≠ first.name :=
          ne_of_mem_of_not_mem (List.mem_map_of_mem among) distinct.1
        rw [stored, if_neg different, declared.2 member among]
      obtain ⟨after, finished, kept, loaded⟩ :=
        ih (seen.trans sees) visible.2 distinct.2 others
      refine ⟨after, ?_, ?_, ?_⟩
      · rw [List.map_cons, runAll_cons_of_next ran, finished]
      · intro name absent
        rw [List.map_cons, List.mem_cons, not_or] at absent
        rw [kept name absent.2, stored, if_neg absent.1]
      · rw [List.forall_mem_cons]
        refine ⟨?_, loaded⟩
        rw [kept first.name distinct.1, stored, if_pos rfl]

end Visible

section Hidden

variable {state : State} {name : String} {hidden : Option Value}

/-- Loading any member leaves a hidden member as it was. -/
theorem hides_run_load (hides : state.Hides name hidden) (member : Member) :
    (member.load.run state).1.Hides name hidden := by
  cases tested : state.eval (.invoke (.variable "data") "has" [.text member.key]) with
  | none => simpa [Member.load, Statement.when, run, runBranches, tested] using hides
  | some answer =>
      rw [Member.load, run_when tested]
      split
      · rw [runAll_singleton, run]
        cases taken : state.eval (.index (.variable "data") (.text member.key)) with
        | none => simpa [proceed] using hides
        | some value =>
            simp only [Option.bind_some, store]
            cases assigned : state.set? member.name value with
            | none => simpa [proceed] using hides
            | some after =>
                obtain ⟨stays, same⟩ := hides.set? assigned
                simpa [proceed, leave_of_length same] using stays
      · exact hides

theorem hides_runAll_loads (hides : state.Hides name hidden) (members : List Member) :
    (runAll (members.map Member.load) state).1.Hides name hidden := by
  induction members generalizing state with
  | nil => exact hides
  | cons first rest ih =>
      have stays := hides_run_load hides first
      rw [List.map_cons, runAll]
      split
      · next after ran => exact ih (by simpa [ran] using stays)
      · next after ending ran => simpa [ran] using stays

end Hidden

/-- A function without members to load has a statement that does nothing. -/
theorem runAll_loadBody (members : List Member) (state : State) :
    runAll (loadBody members) state = runAll (members.map Member.load) state := by
  cases members with
  | nil => rfl
  | cons first rest => rfl

end Statement

/-! ## Filling from a dictionary -/

/-- The function that fills a model of a datatype from a dictionary gives every member
the value at the key of its property, or leaves it as it is declared if there is none.
-/
def Fills (sdk : Sdk) (datatype : Datatype) (data : List (String × Value)) : Prop :=
  let members := modelMembers sdk (sdk.names.sanitizer.datatype datatype)
  ∃ after, Statement.runAll (loadBody members) (.filling members data) =
    (after, .next) ∧ ∀ property ∈ datatype.properties,
      let member := Member.of sdk.names.sanitizer property
      after.members.lookup member.name =
        some ((data.lookup property.wireName).getD member.default)

section Accepted

variable {config : Config} {now : Timestamp} {sdk : Sdk} {api : ApiDescription}
  {accepted : Sanitized}
  {datatype : Datatype}

/-- The members of a class of an accepted API have different names. -/
theorem nodup_members (accepts : sdk.accept api = .ok accepted)
    (described : datatype ∈ api.datatypes) :
    ((datatype.properties.map (Member.of sdk.names.sanitizer)).map Member.name).Nodup :=
  by
  have acceptable := Sdk.acceptable_of_accept accepts
  obtain rfl := Sdk.eq_sanitize_of_accept accepts
  have inside := acceptable.datatypes _ (List.mem_map_of_mem described)
  simpa [Sanitizer.datatype, Sanitizer.property, Function.comp_def]
    using inside.distinct

/-- A member has the name of the parameter only if its property has it, since that name
is not reserved. -/
theorem name_eq_data_iff (made : Sdk.new config now = .ok sdk) (property : Property) :
    (Member.of sdk.names.sanitizer property).name = "data" ↔
      property.name = "data" := by
  apply Member.name_of_eq_iff
  · rw [Sanitizer.isReserved, Sdk.reserved_of_new made,
      ReservedNames.contains_engineClasses]
    decide
  · decide

theorem fills_of_visible (made : Sdk.new config now = .ok sdk)
    (accepts : sdk.accept api = .ok accepted) (described : datatype ∈ api.datatypes)
    (visible : ∀ property ∈ datatype.properties, property.name ≠ "data")
    (data : List (String × Value)) : Fills sdk datatype data := by
  have distinct := nodup_members accepts described
  rw [Fills, modelMembers_datatype]
  have apart : ∀ member ∈ datatype.properties.map (Member.of sdk.names.sanitizer),
      member.name ≠ "data" := by
    rw [List.forall_mem_map]
    exact fun property member =>
      mt (name_eq_data_iff made property).mp (visible property member)
  have sees : (State.filling (datatype.properties.map (Member.of sdk.names.sanitizer))
      data).locals = [("data", .dictionary data)] := rfl
  obtain ⟨after, ran, _, loaded⟩ :=
    Statement.runAll_loads sees apart distinct fun member =>
      State.lookup_filling distinct data
  refine ⟨after, (Statement.runAll_loadBody _ _).trans ran,
    fun property described => ?_⟩
  simpa using loaded _ (List.mem_map_of_mem described)

/-- A member that the parameter hides keeps its first value, whatever else is at its
key. -/
theorem not_fills_of_hidden (made : Sdk.new config now = .ok sdk)
    (accepts : sdk.accept api = .ok accepted) (described : datatype ∈ api.datatypes)
    {property : Property} (declared : property ∈ datatype.properties)
    (hidden : property.name = "data") {data : List (String × Value)} {value : Value}
    (there : data.lookup property.wireName = some value)
    (other : value ≠ (Member.of sdk.names.sanitizer property).default) :
    ¬ Fills sdk datatype data := by
  have distinct := nodup_members accepts described
  rw [Fills, modelMembers_datatype]
  rintro ⟨after, ran, loaded⟩
  rw [Statement.runAll_loadBody] at ran
  have named := (name_eq_data_iff made property).mpr hidden
  have first := State.lookup_filling distinct data (List.mem_map_of_mem declared)
  rw [named] at first
  have stays :=
    Statement.hides_runAll_loads ⟨rfl,
      first⟩ (datatype.properties.map (Member.of sdk.names.sanitizer))
  rw [ran] at stays
  have taken := loaded property declared
  simp only [named, stays.kept, there, Option.getD_some, Option.some.injEq] at taken
  exact other taken.symm

/-- The models of a class are filled right from every dictionary exactly if no property
has the name of the parameter. -/
theorem fills_iff_no_data (made : Sdk.new config now = .ok sdk)
    (accepts : sdk.accept api = .ok accepted) (described : datatype ∈ api.datatypes) :
    (∀ data, Fills sdk datatype data) ↔
      ∀ property ∈ datatype.properties, property.name ≠ "data" := by
  constructor
  · intro fills property declared hidden
    have there : [(property.wireName, Value.bool Bool.true)].lookup property.wireName =
        some (.bool Bool.true) :=
      List.lookup_cons_self
    exact not_fills_of_hidden made accepts described declared hidden there
      (Literal.value_ne_true _).symm (fills _)
  · exact fills_of_visible made accepts described

end Accepted

/-- An API with one class, whose properties are required and have the given names and
types. -/
def singleClass (properties : List (String × ActualType)) : ApiDescription :=
  ⟨"Cloud", [⟨"Payload", properties.map fun (name, type) =>
    ⟨name, type, none, false, none, none, none⟩, none, none⟩], [], [], .empty⟩

/-- Names that are close to that of the parameter, and one that is reserved. -/
def visibleNames : ApiDescription :=
  singleClass [("Data", .object), ("data_", .string), ("Resource", .string)]

theorem fills_iff_no_data_visibleNames :
    Sdk.new .standard Sdk.standard.now = .ok .standard ∧
      Sdk.standard.accept visibleNames =
        .ok (Sdk.standard.names.sanitizer.sanitize visibleNames) ∧
      visibleNames.datatypes[0] ∈ visibleNames.datatypes ∧
      ∀ data, Fills .standard visibleNames.datatypes[0] data := by
  have accepts : Sdk.standard.accept visibleNames =
      .ok (Sdk.standard.names.sanitizer.sanitize visibleNames) :=
    Sdk.accept_standard (by decide)
  have described : visibleNames.datatypes[0] ∈ visibleNames.datatypes :=
    List.getElem_mem _
  exact ⟨Sdk.new_standard, accepts, described,
    (fills_iff_no_data Sdk.new_standard accepts described).mpr (by decide)⟩

/-- A property that has the name of the parameter, and one that comes after it. -/
def hiddenName : ApiDescription :=
  singleClass [("data", .object), ("Id", .string)]

/-- A dictionary with an identifier of its own, and another one where the hidden
property is. -/
def twoIdentifiers : List (String × Value) :=
  [("data", .dictionary [("Id", .string "inner")]), ("Id", .string "outer")]

/-- The first statement makes the parameter the inner dictionary, and the second one
reads from that. -/
theorem hiddenName_not_filled :
    Sdk.standard.accept hiddenName =
      .ok (Sdk.standard.names.sanitizer.sanitize hiddenName) ∧
      ¬ Fills .standard hiddenName.datatypes[0] twoIdentifiers := by
  have accepts : Sdk.standard.accept hiddenName =
      .ok (Sdk.standard.names.sanitizer.sanitize hiddenName) :=
    Sdk.accept_standard (by decide)
  refine ⟨accepts, not_fills_of_hidden Sdk.new_standard accepts (List.getElem_mem _)
    (List.mem_cons_self ..) rfl rfl ?_⟩
  simp [Member.default, Member.initial, Member.annotation?, Member.of, Member.type,
    Sanitizer.property, Sanitizer.actualType, MemberType.of, MemberType.ofActual,
    MemberType.initial, Literal.value]

end Script

end GodotSdk
