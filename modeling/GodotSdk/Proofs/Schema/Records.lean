import GodotSdk.Proofs.Failures
import GodotSdk.Proofs.Schema.Presentation
import GodotSdk.Schema.Encode

/-!
# Records read field by field

The members of a JSON object fill the parts of a record one after the other. Each member
gives the part that its field reads, and a member that is left out leaves its part
empty. Conversely, whatever a record is read from, its parts have every property that
each of its fields gives and keeps.
-/

namespace GodotSdk.Schema

open GodotSdk.Json (Value)

variable {ν : Type} [Source ν] {node : Value → ν} {σ α : Type}

/-! ## Reading members -/

/-- The parts of a record from the members of an object, starting from other parts. -/
def Fills (node : Value → ν) (fields : List (Field ν σ)) (start : σ)
    (members : List (String × Value)) (parts : σ) :
    Prop :=
  readFields fields start (members.map fun member =>
    (.ok (.name member.1), .ok (node member.2))) = .ok parts

theorem readFields_append (fields : List (Field ν σ)) (start : σ)
    (first second : List (Read FieldName × Read ν)) :
    readFields fields start (first ++ second) =
      readFields fields start first >>=
        fun parts => readFields fields parts second := by
  induction first generalizing start with
  | nil => rfl
  | cons entry rest ih =>
      obtain ⟨key, value⟩ := entry
      rw [List.cons_append, readFields, readFields, bind_assoc]
      congr 1
      funext key
      cases findField fields key with
      | none => simp only [bind_assoc, ih]
      | some field =>
          by_cases repeated : field.present start
          · simp only [repeated, ↓reduceIte]
            rfl
          · simp only [repeated, Bool.false_eq_true, ↓reduceIte, bind_assoc, ih]

namespace Fills

variable {fields : List (Field ν σ)} {start parts : σ} {members : List (String × Value)}

theorem empty (node : Value → ν) (fields : List (Field ν σ)) (start : σ) :
    Fills node fields start [] start :=
  rfl

theorem append {more : List (String × Value)} {filled : σ}
    (first : Fills node fields start members parts)
    (second : Fills node fields parts more filled) :
    Fills node fields start (members ++ more) filled := by
  rw [Fills] at first second ⊢
  rw [List.map_append, readFields_append, first]
  exact second

/-- A member gives the part that its field reads. -/
theorem member (key : String) {field : Field ν σ} {next : σ}
    (filled : Fills node fields start members parts) (value : Value)
    (found : findField fields (.name key) = some field)
    (fresh : field.present parts = false)
    (given : field.read (node value) parts = .ok next) :
    Fills node fields start (members ++ [(key, value)]) next := by
  apply filled.append
  simp only [Fills, List.map_cons, List.map_nil, readFields, within, found, fresh,
    given, bind, Except.bind, Bool.false_eq_true, ↓reduceIte]

/-- A member that may be left out gives its part if it is there. -/
theorem optional (key : String) {field : Field ν σ} {encode : α → Value}
    (filled : Fills node fields start members parts) (value : Option α)
    (put : Option (Option α) → σ → σ)
    (found : findField fields (.name key) = some field)
    (fresh : field.present parts = false) (keeps : put none parts = parts)
    (given : ∀ part ∈ value, field.read (node (encode part)) parts =
      .ok (put (some (some part)) parts)) :
    Fills node fields start (members ++ optionalMember key encode value)
      (put (value.map some) parts) := by
  cases value with
  | none => rw [optionalMember, List.append_nil, Option.map_none, keeps]; exact filled
  | some part => exact filled.member key (encode part) found fresh (given part rfl)

end Fills

/-- A record is read from an object whose members fill all parts that are required. -/
theorem readRecord_of_fills (presents : Presents node) {record : String}
    {fields : List (Field ν σ)} {start parts : σ} {members : List (String × Value)}
    (filled : Fills node fields start members parts)
    (complete : (fields.find? fun field => field.required &&
      !field.present parts) = none) :
    readRecord record fields start (node (.object members)) = .ok parts := by
  rw [Fills] at filled
  rw [readRecord, presents.shape]
  simp only [bind, Except.bind, filled, complete]
  rfl

/-! ## Values within members -/

section Values

variable {read : ν → Read α} {encode : α → Value}

theorem readOptional_of_given (presents : Presents node) {value : Value} {part : α}
    (given : value ≠ .null) (reads : read (node value) = .ok part) :
    readOptional read (node value) = .ok (some part) := by
  rw [readOptional, presents.optional given]
  simp only [bind, Except.bind, reads]
  rfl

omit [Source ν] in
theorem readEach_map {parts : List α} (position : Nat)
    (reads : ∀ part ∈ parts, read (node (encode part)) = .ok part) :
    readEach read position (parts.map fun part => .ok (node (encode part))) =
      .ok parts := by
  induction parts generalizing position with
  | nil => rfl
  | cons part parts ih =>
      obtain ⟨readsPart, readsParts⟩ := List.forall_mem_cons.mp reads
      simp only [List.map_cons, readEach, bind, Except.bind, readsPart, within,
        ih _ readsParts]
      rfl

theorem readList_of_array (presents : Presents node) {parts : List α}
    (reads : ∀ part ∈ parts, read (node (encode part)) = .ok part) :
    readList read (node (.array (parts.map encode))) = .ok parts := by
  rw [readList, presents.items, List.map_map]
  exact readEach_map 0 reads

omit [Source ν] in
theorem readEntries_map {entries : List (String × α)}
    (reads : ∀ entry ∈ entries, read (node (encode entry.2)) = .ok entry.2) :
    readEntries read (entries.map fun entry =>
      (.ok entry.1, .ok (node (encode entry.2)))) = .ok entries := by
  induction entries with
  | nil => rfl
  | cons entry entries ih =>
      obtain ⟨readsEntry, readsEntries⟩ := List.forall_mem_cons.mp reads
      simp only [List.map_cons, readEntries, bind, Except.bind, readsEntry, within,
        ih readsEntries]
      rfl

end Values

/-! ## Fields by themselves -/

section Fields

variable {key : String} {get : σ → Option α} {set : α → σ → σ} {read : ν → Read α}
  {node : ν} {part : α}

omit [Source ν] in
theorem read_required (reads : read node = .ok part) (parts : σ) :
    (required key get set read).read node parts = .ok (set part parts) := by
  simp only [required, reads, bind, Except.bind]
  rfl

omit [Source ν] in
theorem read_defaulted (reads : read node = .ok part) (parts : σ) :
    (defaulted key get set read).read node parts = .ok (set part parts) := by
  rw [defaulted]
  exact @read_required _ _ _ key get set read node part reads parts

end Fields

/-! ## What fields keep -/

theorem within_eq_ok_iff {segment : Segment} {result : Read α} {value : α} :
    within segment result = .ok value ↔ result = .ok value := by
  cases result <;> simp [within]

omit [Source ν] in
theorem mem_of_findField {fields : List (Field ν σ)} {key : FieldName}
    {field : Field ν σ}
    (found : findField fields key = some field) : field ∈ fields := by
  cases key with
  | name text => exact List.mem_of_find?_eq_some found
  | position index => exact List.mem_of_getElem? found

/-- Whether reading a field keeps a property of the parts of its record. -/
def Keeps (Holds : σ → Prop) (field : Field ν σ) : Prop :=
  ∀ node parts next, Holds parts → field.read node parts = .ok next → Holds next

section Kept

variable {Holds : σ → Prop} {key : String} {get : σ → Option α} {set : α → σ → σ}
  {read : ν → Read α}

omit [Source ν] in
/-- A field keeps what remains true after any part that it can read. -/
theorem keeps_required (sets : ∀ node part parts, read node = .ok part → Holds parts →
    Holds (set part parts)) :
    Keeps Holds (required key get set read) := by
  intro node parts next holds filled
  obtain ⟨part, reads, same⟩ := bind_eq_ok_iff.mp filled
  obtain rfl : set part parts = next := Except.ok.inj same
  exact sets node part parts reads holds

omit [Source ν] in
theorem keeps_defaulted (sets : ∀ node part parts, read node = .ok part → Holds parts →
    Holds (set part parts)) :
    Keeps Holds (defaulted key get set read) := by
  rw [defaulted]
  exact @keeps_required _ _ _ Holds key get set read sets

end Kept

section Invariant

variable {Holds : σ → Prop} {fields : List (Field ν σ)} {start parts : σ}

theorem readFields_keeps (keeps : ∀ field ∈ fields, Keeps Holds field)
    {entries : List (Read FieldName × Read ν)}
    (holds : Holds start) (read : readFields fields start entries = .ok parts) :
    Holds parts := by
  induction entries generalizing start with
  | nil => exact Except.ok.inj read ▸ holds
  | cons entry rest ih =>
      obtain ⟨key, value⟩ := entry
      rw [readFields] at read
      obtain ⟨key, -, read⟩ := bind_eq_ok_iff.mp read
      split at read
      · obtain ⟨node, -, read⟩ := bind_eq_ok_iff.mp read
        obtain ⟨_, -, read⟩ := bind_eq_ok_iff.mp read
        exact ih holds read
      · next field found =>
          split at read
          · cases read
          · obtain ⟨node, -, read⟩ := bind_eq_ok_iff.mp read
            obtain ⟨next, given, read⟩ := bind_eq_ok_iff.mp read
            have kept :=
              keeps field (mem_of_findField found) node start next holds
                (within_eq_ok_iff.mp given)
            exact ih kept read

omit [Source ν] in
theorem readValues_keeps (keeps : ∀ field ∈ fields, Keeps Holds field) {record : String}
    {total count : Nat} {finish : Nat → Read Unit} {items : List (Read ν)}
    (holds : Holds start)
    (read : readValues record total finish count start fields items = .ok parts) :
    Holds parts := by
  induction fields generalizing start count items with
  | nil =>
      obtain ⟨_, -, read⟩ := bind_eq_ok_iff.mp read
      exact Except.ok.inj read ▸ holds
  | cons field fields ih =>
      obtain ⟨keepsField, keepsFields⟩ := List.forall_mem_cons.mp keeps
      cases items with
      | nil =>
          rw [readValues] at read
          split at read
          · cases read
          · exact ih keepsFields holds read
      | cons item items =>
          rw [readValues] at read
          obtain ⟨node, -, read⟩ := bind_eq_ok_iff.mp read
          obtain ⟨next, given, read⟩ := bind_eq_ok_iff.mp read
          exact ih keepsFields
            (keepsField node start next holds (within_eq_ok_iff.mp given)) read

/-- What all fields keep of the parts of a record holds after the record is read, in
whichever form it is written. -/
theorem readRecord_keeps (keeps : ∀ field ∈ fields, Keeps Holds field) {record : String}
    {node : ν}
    (holds : Holds start) (read : readRecord record fields start node = .ok parts) :
    Holds parts := by
  obtain ⟨shape, -, read⟩ := bind_eq_ok_iff.mp read
  cases shape with
  | values items finish => exact readValues_keeps keeps holds read
  | fields entries =>
      obtain ⟨filled, given, read⟩ := bind_eq_ok_iff.mp read
      split at read
      · cases read
      · exact Except.ok.inj read ▸ readFields_keeps keeps holds given

end Invariant

/-! ## What is read in lists -/

section Lists

variable {Holds : α → Prop} {read : ν → Read α} (reads : ∀ node part,
  read node = .ok part → Holds part)

include reads

omit [Source ν] in
theorem forall_of_readEach {position : Nat} {items : List (Read ν)} {parts : List α}
    (given : readEach read position items = .ok parts) :
    ∀ part ∈ parts, Holds part := by
  induction items generalizing position parts with
  | nil =>
      obtain rfl : [] = parts := Except.ok.inj given
      simp
  | cons item items ih =>
      obtain ⟨node, -, given⟩ := bind_eq_ok_iff.mp given
      obtain ⟨part, one, given⟩ := bind_eq_ok_iff.mp given
      obtain ⟨others, more, same⟩ := bind_eq_ok_iff.mp given
      obtain rfl : part :: others = parts := Except.ok.inj same
      exact List.forall_mem_cons.mpr
        ⟨reads node part (within_eq_ok_iff.mp one), ih more⟩

theorem forall_of_readList {node : ν} {parts : List α}
    (given : readList read node = .ok parts) :
    ∀ part ∈ parts, Holds part := by
  obtain ⟨items, -, given⟩ := bind_eq_ok_iff.mp given
  exact forall_of_readEach reads given

omit [Source ν] in
theorem forall_of_readEntries {items : List (Read String × Read ν)}
    {entries : List (String × α)} (given : readEntries read items = .ok entries) :
    ∀ entry ∈ entries, Holds entry.2 := by
  induction items generalizing entries with
  | nil =>
      obtain rfl : [] = entries := Except.ok.inj given
      simp
  | cons item items ih =>
      obtain ⟨key, -, given⟩ := bind_eq_ok_iff.mp given
      obtain ⟨node, -, given⟩ := bind_eq_ok_iff.mp given
      obtain ⟨part, one, given⟩ := bind_eq_ok_iff.mp given
      obtain ⟨others, more, same⟩ := bind_eq_ok_iff.mp given
      obtain rfl : (key, part) :: others = entries := Except.ok.inj same
      exact List.forall_mem_cons.mpr
        ⟨reads node part (within_eq_ok_iff.mp one), ih more⟩

end Lists

end GodotSdk.Schema
