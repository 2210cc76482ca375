/-!
# Ordered maps

Maps from text to values that remember the order in which their keys first came. A key
that comes again keeps its place and takes the new value.
-/

namespace GodotSdk

/-- Put an entry into a list of entries: in place of the one with the same key, or else
at the end. -/
def putEntry {β : Type} (key : String) (value : β) :
    List (String × β) → List (String × β)
  | [] => [(key, value)]
  | (other, old) :: rest =>
      if other = key then (key, value) :: rest
        else (other, old) :: putEntry key value rest

theorem putEntry_keys {β : Type} (key : String) (value : β)
    (entries : List (String × β)) :
    (putEntry key value entries).map Prod.fst =
      if key ∈ entries.map Prod.fst then entries.map Prod.fst
        else entries.map Prod.fst ++ [key] := by
  induction entries with
  | nil => simp [putEntry]
  | cons entry rest ih =>
      obtain ⟨other, old⟩ := entry
      by_cases equal : other = key
      · simp [putEntry, equal]
      · have different : ¬ key = other := fun h => equal h.symm
        simp only [putEntry, if_neg equal, List.map_cons, ih, List.mem_cons,
          different, false_or]
        split <;> simp

theorem putEntry_nodup {β : Type} (key : String) (value : β)
    (entries : List (String × β)) (nodup : (entries.map Prod.fst).Nodup) :
    ((putEntry key value entries).map Prod.fst).Nodup := by
  rw [putEntry_keys]
  split
  · exact nodup
  · next absent =>
      rw [List.nodup_append]
      refine ⟨nodup, by simp, ?_⟩
      intro a member b equal
      simp only [List.mem_singleton] at equal
      exact fun same => absent (equal ▸ same ▸ member)

theorem lookup_entry {β : Type} (wanted key : String) (value : β)
    (rest : List (String × β)) :
    ((key, value) :: rest).lookup wanted = if wanted = key then some value
      else rest.lookup wanted := by
  by_cases same : wanted = key
  · simp [same]
  · have different : (wanted == key) = false := beq_eq_false_iff_ne.mpr same
    simp [List.lookup_cons, same, different]

theorem lookup_putEntry {β : Type} (key : String) (value : β)
    (entries : List (String × β)) (wanted : String) :
    (putEntry key value entries).lookup wanted =
      if wanted = key then some value else entries.lookup wanted := by
  induction entries with
  | nil => simp [putEntry, lookup_entry]
  | cons entry rest ih =>
      obtain ⟨other, old⟩ := entry
      by_cases equal : other = key
      · by_cases same : wanted = key <;> simp [putEntry, lookup_entry, equal, same]
      · simp only [putEntry, if_neg equal, lookup_entry, ih]
        by_cases same : wanted = key
        · have different : ¬ key = other := fun h => equal h.symm
          simp [same, different]
        · simp [same]

/-- Putting in the value that is there changes nothing. -/
theorem putEntry_of_lookup {β : Type} {key : String} {value : β}
    {entries : List (String × β)} (found : entries.lookup key = some value) :
    putEntry key value entries = entries := by
  induction entries with
  | nil => simp at found
  | cons entry rest ih =>
      obtain ⟨other, old⟩ := entry
      by_cases equal : other = key
      · simp only [equal, List.lookup_cons_self, Option.some.injEq] at found
        simp [putEntry, equal, found]
      · have different : ¬ key = other := fun h => equal h.symm
        simp only [lookup_entry, if_neg different] at found
        simp [putEntry, equal, ih found]

/-- Of two values put in at one key, the second stays. -/
theorem putEntry_putEntry {β : Type} (key : String) (first second : β)
    (entries : List (String × β)) :
    putEntry key second (putEntry key first entries) = putEntry key second entries := by
  induction entries with
  | nil => simp [putEntry]
  | cons entry rest ih =>
      obtain ⟨other, old⟩ := entry
      by_cases equal : other = key
      · simp [putEntry, equal]
      · simp [putEntry, equal, ih]

theorem putEntry_of_absent {β : Type} {key : String} (value : β)
    {entries : List (String × β)} (absent : key ∉ entries.map Prod.fst) :
    putEntry key value entries = entries ++ [(key, value)] := by
  induction entries with
  | nil => rfl
  | cons entry rest ih =>
      have different : ¬ entry.1 = key := fun same => absent (same ▸ List.mem_cons_self)
      have later : key ∉ rest.map Prod.fst :=
        fun member => absent (List.mem_cons_of_mem _ member)
      rw [putEntry, if_neg different, ih later, List.cons_append]

theorem filter_putEntry {β : Type} (key : String) (value : β)
    (entries : List (String × β)) :
    (putEntry key value entries).filter (·.1 ≠ key) = entries.filter (·.1 ≠ key) := by
  induction entries with
  | nil => simp [putEntry]
  | cons entry rest ih =>
      by_cases same : entry.1 = key
      · simp [putEntry, same]
      · rw [putEntry, if_neg same, List.filter_cons, List.filter_cons, ih]

theorem prefix_keys_putEntry {β : Type} (key : String) (value : β)
    (entries : List (String × β)) :
    entries.map Prod.fst <+: (putEntry key value entries).map Prod.fst := by
  rw [putEntry_keys]
  split
  · exact List.prefix_refl _
  · exact List.prefix_append _ _

theorem forall_mem_putEntry {β : Type} {Holds : β → Prop} {key : String} {value : β}
    {entries : List (String × β)} (holds : Holds value)
    (others : ∀ entry ∈ entries, Holds entry.2) :
    ∀ entry ∈ putEntry key value entries, Holds entry.2 := by
  induction entries with
  | nil => simpa [putEntry] using holds
  | cons entry rest ih =>
      obtain ⟨first, others⟩ := List.forall_mem_cons.mp others
      rw [putEntry]
      split
      · exact List.forall_mem_cons.mpr ⟨holds, others⟩
      · exact List.forall_mem_cons.mpr ⟨first, ih others⟩

theorem length_putEntry {β : Type} {key : String} (value : β)
    {entries : List (String × β)} (found : (entries.lookup key).isSome = true) :
    (putEntry key value entries).length = entries.length := by
  induction entries with
  | nil => simp at found
  | cons entry rest ih =>
      obtain ⟨other, old⟩ := entry
      by_cases equal : other = key
      · simp [putEntry, equal]
      · have different : ¬ key = other := fun h => equal h.symm
        simp only [lookup_entry, if_neg different] at found
        simp [putEntry, equal, ih found]

/-- A map whose keys are distinct and ordered. -/
structure OrderedMap (β : Type) where
  entries : List (String × β)
  nodup : (entries.map Prod.fst).Nodup

namespace OrderedMap

variable {β : Type}

def empty : OrderedMap β :=
  ⟨[], by simp⟩

instance : Inhabited (OrderedMap β) :=
  ⟨empty⟩

def insert (map : OrderedMap β) (key : String) (value : β) : OrderedMap β :=
  ⟨putEntry key value map.entries, putEntry_nodup key value map.entries map.nodup⟩

/-- The map of a list of entries, of which later ones win. -/
def ofList (entries : List (String × β)) : OrderedMap β :=
  entries.foldl (fun map entry => map.insert entry.1 entry.2) empty

def toList (map : OrderedMap β) : List (String × β) :=
  map.entries

def get? (map : OrderedMap β) (key : String) : Option β :=
  map.entries.lookup key

theorem get?_insert (map : OrderedMap β) (key : String) (value : β) (wanted : String) :
    (map.insert key value).get? wanted = if wanted = key then some value
      else map.get? wanted :=
  lookup_putEntry key value map.entries wanted

theorem entries_foldl_insert {map : OrderedMap β} {entries : List (String × β)}
    (nodup : ((map.entries ++ entries).map Prod.fst).Nodup) :
    (entries.foldl (fun map entry => map.insert entry.1 entry.2) map).entries =
      map.entries ++ entries := by
  induction entries generalizing map with
  | nil => exact (List.append_nil _).symm
  | cons entry rest ih =>
      have absent : entry.1 ∉ map.entries.map Prod.fst := by
        rw [List.map_append, List.map_cons, List.nodup_append] at nodup
        exact fun member => nodup.2.2 _ member _ List.mem_cons_self rfl
      have inserted : (map.insert entry.1 entry.2).entries = map.entries ++ [entry] :=
        putEntry_of_absent entry.2 absent
      rw [List.foldl_cons, ih, inserted, List.append_assoc, List.singleton_append]
      rwa [inserted, List.append_assoc, List.singleton_append]

theorem forall_mem_foldl_insert {Holds : β → Prop} {map : OrderedMap β}
    {entries : List (String × β)} (earlier : ∀ entry ∈ map.entries, Holds entry.2)
    (later : ∀ entry ∈ entries, Holds entry.2) :
    ∀ entry ∈ (entries.foldl (fun map entry => map.insert entry.1 entry.2) map).entries,
      Holds entry.2 := by
  induction entries generalizing map with
  | nil => exact earlier
  | cons entry rest ih =>
      obtain ⟨holds, later⟩ := List.forall_mem_cons.mp later
      exact ih (forall_mem_putEntry holds earlier) later

theorem forall_mem_ofList {Holds : β → Prop} {entries : List (String × β)}
    (holds : ∀ entry ∈ entries, Holds entry.2) :
    ∀ entry ∈ (ofList entries).toList, Holds entry.2 :=
  forall_mem_foldl_insert (by simp [empty]) holds

theorem ext {left right : OrderedMap β} (equal : left.entries = right.entries) :
    left = right := by
  cases left
  cases right
  simp_all

/-- Of two values inserted at one key, the second stays. -/
theorem insert_insert (map : OrderedMap β) (key : String) (first second : β) :
    (map.insert key first).insert key second = map.insert key second :=
  ext (putEntry_putEntry key first second map.entries)

/-- A map is the map of its entries. -/
theorem ofList_toList (map : OrderedMap β) : ofList map.toList = map :=
  ext (entries_foldl_insert map.nodup)

instance [DecidableEq β] : DecidableEq (OrderedMap β) := fun left right =>
  if equal : left.entries = right.entries then isTrue (ext equal)
  else isFalse fun same => equal (same ▸ rfl)

end OrderedMap

end GodotSdk
