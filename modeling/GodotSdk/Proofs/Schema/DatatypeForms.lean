import GodotSdk.Proofs.Schema.InStep
import GodotSdk.Proofs.Schema.RoundTrip
import GodotSdk.Proofs.Sdk.Acceptance
import Mathlib.Data.List.Nodup
import Mathlib.Data.List.Perm.Subperm

/-!
# Datatypes as a map and as a list

The datatypes of a description are an array, or an object whose values they are. The
keys of the object are dropped, but not before they are read and the values put into a
map by them: of several datatypes at one key the last one is left, in the place of the
first. So the two forms give the same description exactly if the keys can be read and
none of them comes again.
-/

namespace GodotSdk

/-! ## Maps of entries with repeated keys -/

namespace OrderedMap

variable {β : Type} {entries : List (String × β)}

theorem keys_foldl_insert_subset {map : OrderedMap β} {keys : List String}
    (earlier : map.entries.map Prod.fst ⊆ keys) (later : entries.map Prod.fst ⊆ keys) :
    (entries.foldl (fun map entry => map.insert entry.1 entry.2) map).entries.map
      Prod.fst ⊆ keys := by
  induction entries generalizing map with
  | nil => exact earlier
  | cons entry rest ih =>
      obtain ⟨first, later⟩ := List.cons_subset.mp later
      refine ih ?_ later
      show (putEntry entry.1 entry.2 map.entries).map Prod.fst ⊆ keys
      rw [putEntry_keys]
      split
      · exact earlier
      · exact List.append_subset.mpr ⟨earlier,
          List.cons_subset.mpr ⟨first, List.nil_subset keys⟩⟩

/-- A map has all values of the entries it was made of exactly if they have different
keys. -/
theorem values_ofList_eq_iff :
    (ofList entries).toList.map Prod.snd = entries.map Prod.snd ↔
      (entries.map Prod.fst).Nodup := by
  constructor
  · intro same
    have subset : (ofList entries).toList.map Prod.fst ⊆ entries.map Prod.fst :=
      keys_foldl_insert_subset (List.nil_subset _) (List.Subset.refl _)
    have length : (entries.map Prod.fst).length ≤
        ((ofList entries).toList.map Prod.fst).length := by
      simpa using (congrArg List.length same).ge
    have distinct : ((ofList entries).toList.map Prod.fst).Nodup :=
      (ofList entries).nodup
    exact ((distinct.subperm subset).perm_of_length_le length).nodup_iff.mp distinct
  · intro distinct
    exact congrArg (List.map Prod.snd) (entries_foldl_insert distinct)

end OrderedMap

namespace Schema

open GodotSdk.Json (Draft ListTail ObjectTail TextDraft Value)

/-- The values that are left of values at keys, of which the last one at a key stays in
the place of the first. -/
def OnePerKey {α : Type} (keys : List String) (left values : List α) : Prop :=
  ∃ entries : List (String × α), entries.map Prod.fst = keys ∧
    entries.map Prod.snd = values ∧
    left = (OrderedMap.ofList entries).toList.map Prod.snd

theorem OnePerKey.eq_iff {α : Type} {keys : List String} {left values : List α}
    (onePerKey : OnePerKey keys left values) : left = values ↔ keys.Nodup := by
  obtain ⟨entries, rfl, rfl, rfl⟩ := onePerKey
  exact OrderedMap.values_ofList_eq_iff

/-! ## Members and items read whole -/

/-- The keys of the members of an object. -/
def memberKeys (members : List (TextDraft × Draft)) : Except Json.Fault (List String) :=
  members.mapM fun member => member.1.typed

section Whole

variable {members : List (TextDraft × Draft)} {keys : List String}

theorem inStep_memberContents {depth : Nat} (readable : memberKeys members = .ok keys)
    (position : Nat) :
    InStep (fun pairs contents => ∃ entries : List (String × Content),
      entries.map Prod.fst = keys ∧
        entries.map Prod.snd = contents ∧ pairs = entries.map fun entry =>
          (.text entry.1, entry.2))
      (FromJson.memberContents depth members .closed)
      (FromJson.itemContents depth position (members.map Prod.snd) .closed) := by
  induction members generalizing keys position with
  | nil =>
      obtain rfl : [] = keys := Except.ok.inj readable
      exact .ok ⟨[], rfl, rfl, rfl⟩
  | cons member members ih =>
      obtain ⟨draft, value⟩ := member
      obtain ⟨key, named, others, rest, rfl⟩ := mapM_cons_eq_ok_iff.mp readable
      have given : within .unknown (FromJson.orMalformed draft.typed) = .ok key := by
        rw [named]; rfl
      rw [FromJson.memberContents, given, List.map_cons, FromJson.itemContents]
      refine ((InStep.refl _).within _ _).bind ?_
      rintro content _ rfl
      refine (ih rest (position + 1)).bind ?_
      rintro _ contents ⟨entries, rfl, rfl, rfl⟩
      exact .ok ⟨(key, content) :: entries, rfl, rfl, rfl⟩

/-- Members can be read whole only if their keys can be read. -/
theorem exists_memberKeys_of_contents {depth : Nat}
    {contents : List (Content × Content)}
    (read : FromJson.memberContents depth members .closed = .ok contents) :
    ∃ keys, memberKeys members = .ok keys := by
  induction members generalizing contents with
  | nil => exact ⟨[], rfl⟩
  | cons member members ih =>
      obtain ⟨draft, value⟩ := member
      rw [FromJson.memberContents] at read
      obtain ⟨key, given, read⟩ := bind_eq_ok_iff.mp read
      obtain ⟨content, -, read⟩ := bind_eq_ok_iff.mp read
      obtain ⟨others, rest, -⟩ := bind_eq_ok_iff.mp read
      obtain ⟨keys, readable⟩ := ih rest
      have named : draft.typed = .ok key := by
        cases typed : draft.typed with
        | error fault => rw [typed] at given; cases given
        | ok found => rw [typed] at given; cases given; rfl
      exact ⟨key :: keys, mapM_cons_eq_ok_iff.mpr ⟨key, named, keys, readable, rfl⟩⟩

/-! ## Datatypes in both forms -/

theorem inStep_readEntries {ν α : Type} {read : ν → Read α}
    (entries : List (String × ν)) (position : Nat) :
    InStep (fun named values => named.map Prod.fst = entries.map Prod.fst ∧
      named.map Prod.snd = values)
      (readEntries read (entries.map fun entry => (.ok entry.1, .ok entry.2)))
      (readEach read position ((entries.map Prod.snd).map .ok)) := by
  induction entries generalizing position with
  | nil => exact .ok ⟨rfl, rfl⟩
  | cons entry entries ih =>
      obtain ⟨key, node⟩ := entry
      simp only [List.map_cons]
      rw [readEntries, readEach]
      refine ((InStep.refl (read node)).within _ _).bind ?_
      rintro value _ rfl
      refine (ih (position + 1)).bind ?_
      rintro named values ⟨sameKeys, rfl⟩
      exact .ok ⟨congrArg (key :: ·) sameKeys, rfl⟩

/-- A map of datatypes is no list of them, so it is read as a map. -/
theorem inStep_datatypesOf (entries : List (String × Content)) :
    InStep (OnePerKey (entries.map Prod.fst))
      (datatypesOf (Content.map (entries.map fun entry => (.text entry.1, entry.2))))
      (datatypesOf (Content.sequence (entries.map Prod.snd))) := by
  have notListed (pairs : List (Content × Content)) :
      readList readDatatype (Content.map pairs) = unfit (.type .map "a sequence") := rfl
  have named :
      Source.entries (Content.map (entries.map fun entry => (.text entry.1, entry.2))) =
      .ok (entries.map fun entry => (.ok entry.1, .ok entry.2)) := by
    show Except.ok ((entries.map _).map _) = _
    rw [List.map_map]
    rfl
  have listed (contents : List Content) :
      readList readDatatype (Content.sequence contents) =
        readEach readDatatype 0 (contents.map .ok) := rfl
  have notNamed (contents : List Content) :
      Source.entries (Content.sequence contents) =
        unfit (.type .sequence "a map") := rfl
  rw [datatypesOf, datatypesOf, notListed, named, listed, notNamed]
  have inStep : InStep _ (readEntries readDatatype _) _ := inStep_readEntries entries 0
  rcases inStep.outcomes with ⟨named, values, readMap, readItems, sameKeys,
    sameValues⟩ | ⟨_, _, readMap, readItems⟩
  · simp only [unfit, bind, Except.bind, readMap, readItems]
    exact .ok ⟨named, sameKeys, sameValues, rfl⟩
  · simp only [unfit, bind, Except.bind, readMap, readItems]
    exact .error _ _

theorem inStep_readDatatypes (readable : memberKeys members = .ok keys) :
    InStep (OnePerKey keys) (readDatatypes (Draft.object members .closed))
      (readDatatypes (Draft.array (members.map Prod.snd) .closed)) := by
  have contents : InStep (fun map sequence => ∃ entries : List (String × Content),
      entries.map Prod.fst = keys ∧
        map = .map (entries.map fun entry => (.text entry.1, entry.2)) ∧
        sequence = .sequence (entries.map Prod.snd))
      (Source.content (Draft.object members .closed))
      (Source.content (Draft.array (members.map Prod.snd) .closed)) := by
    refine (inStep_memberContents readable 0).bind ?_
    rintro _ _ ⟨entries, sameKeys, rfl, rfl⟩
    exact .ok ⟨entries, sameKeys, rfl, rfl⟩
  refine contents.bind ?_
  rintro _ _ ⟨entries, rfl, rfl, rfl⟩
  exact inStep_datatypesOf entries

theorem exists_memberKeys_of_readDatatypes {datatypes : List Datatype}
    (read : readDatatypes (Draft.object members .closed) = .ok datatypes) :
    ∃ keys, memberKeys members = .ok keys := by
  obtain ⟨content, whole, -⟩ := bind_eq_ok_iff.mp read
  obtain ⟨contents, read, -⟩ := bind_eq_ok_iff.mp whole
  exact exists_memberKeys_of_contents read

end Whole

/-! ## Descriptions with other datatypes -/

section Replaced

variable {related : List Datatype → List Datatype → Prop} {first second : Draft}

/-- Parts of a description that differ in their datatypes, which have been read. -/
def PartsApart (related : List Datatype → List Datatype → Prop)
    (left right : ApiDescriptionParts) : Prop :=
  ∃ these those, related these those ∧ right.datatypes = some those ∧
    left = { right with datatypes := some these }

section Fields

variable {α : Type} {get : ApiDescriptionParts → Option α}
  {set : α → ApiDescriptionParts → ApiDescriptionParts}

theorem get_eq_of_apart
    (gets : ∀ parts datatypes, get { parts with datatypes } = get parts) :
    ∀ left right, PartsApart related left right → get left = get right := by
  rintro _ right ⟨these, those, -, -, rfl⟩
  exact gets right (some these)

theorem apart_set
    (sets : ∀ part parts datatypes, set part { parts with datatypes } =
      { set part parts with datatypes }) :
    ∀ part left right, PartsApart related left right →
      PartsApart related (set part left) (set part right) := by
  rintro part _ right ⟨these, those, pair, given, rfl⟩
  have kept : set part right = { set part right with datatypes := right.datatypes } :=
    sets part right right.datatypes
  exact ⟨these, those, pair, (congrArg ApiDescriptionParts.datatypes kept).trans given,
    sets part right (some these)⟩

end Fields

theorem inStep_laterFields :
    ∀ field ∈ (apiDescriptionFields (@readDatatypes Draft _)).drop 2,
      field.InStep (PartsApart related) := by
  simp only [apiDescriptionFields, List.drop_succ_cons, List.drop_zero,
    List.forall_mem_cons]
  exact ⟨inStep_defaulted (get_eq_of_apart fun _ _ => rfl) (apart_set fun _ _ _ => rfl),
    inStep_defaulted (get_eq_of_apart fun _ _ => rfl) (apart_set fun _ _ _ => rfl),
    inStep_defaulted (get_eq_of_apart fun _ _ => rfl) (apart_set fun _ _ _ => rfl),
    List.forall_mem_nil _⟩

/-- Once the datatypes are read, they stay, and nothing else depends on them. -/
theorem inStep_apiDescriptionFields :
    ∀ field ∈ apiDescriptionFields (@readDatatypes Draft _),
      field.Settled (PartsApart related) ∨ field.InStep (PartsApart related) := by
  refine List.forall_mem_cons.mpr ⟨.inr ?name,
    List.forall_mem_cons.mpr ⟨.inl ?datatypes, ?later⟩⟩
  case name =>
    exact inStep_required (get_eq_of_apart fun _ _ => rfl) (apart_set fun _ _ _ => rfl)
  case datatypes =>
    rintro _ right ⟨these, those, -, given, rfl⟩
    exact ⟨rfl, congrArg Option.isSome given⟩
  case later => exact fun field member => .inr (inStep_laterFields field member)

/-- The field of the datatypes, in parts that do not have them yet. -/
theorem inStep_datatypesField
    (inStep : InStep related (readDatatypes first) (readDatatypes second))
    (parts : ApiDescriptionParts) (segment : Segment) :
    InStep (PartsApart related)
      (within segment do return { parts with
        datatypes := some (← readDatatypes first) })
      (within segment do return { parts with
        datatypes := some (← readDatatypes second) }) :=
  InStep.within _ _ <| inStep.bind fun these those pair =>
    .ok ⟨these, those, pair, rfl, rfl⟩

theorem inStep_readFields_datatypes
    (inStep : InStep related (readDatatypes first) (readDatatypes second))
    (rest : List (Read FieldName × Read Draft)) (parts : ApiDescriptionParts) :
    InStep (PartsApart related)
      (readFields (apiDescriptionFields readDatatypes) parts
        ((.ok (.name "datatypes"), .ok first) :: rest))
      (readFields (apiDescriptionFields readDatatypes) parts
        ((.ok (.name "datatypes"), .ok second) :: rest)) := by
  rw [readFields, readFields]
  show InStep _ (if parts.datatypes.isSome then _
      else _) (if parts.datatypes.isSome then _ else _)
  split
  · exact .error _ _
  · exact (inStep_datatypesField inStep parts _).bind fun _ _ same =>
      inStep_readFields inStep_apiDescriptionFields rest same

/-- Two documents that differ in their datatypes only, which are the given drafts. They
are found by their name, or in their place if the description is written as an array. -/
inductive Replaced (first second : Draft) : Json.Document → Json.Document → Prop
  | named {field : TextDraft} (isDatatypes : field.typed = .ok "datatypes")
      (before after : List (TextDraft × Draft))
      (tail : ObjectTail Draft) (trailing : Bool) :
      Replaced first second ⟨.object (before ++ (field, first) :: after) tail, trailing⟩
        ⟨.object (before ++ (field, second) :: after) tail, trailing⟩
  | placed (name : Draft) (after : List Draft) (tail : ListTail) (trailing : Bool) :
      Replaced first second ⟨.array (name :: first :: after) tail, trailing⟩
        ⟨.array (name :: second :: after) tail, trailing⟩

variable {document other : Json.Document}

theorem Replaced.trailing_eq (replaced : Replaced first second document other) :
    document.trailing = other.trailing := by
  cases replaced <;> rfl

theorem Replaced.self (replaced : Replaced first second document other) :
    Replaced first first document document := by
  cases replaced with
  | named isDatatypes before after tail trailing =>
      exact .named isDatatypes before after tail trailing
  | placed name after tail trailing => exact .placed name after tail trailing

theorem memberEntries_append (before after : List (TextDraft × Draft))
    (tail : ObjectTail Draft) :
    FromJson.memberEntries (before ++ after) tail =
      FromJson.memberEntries before .closed ++ FromJson.memberEntries after tail := by
  simp [FromJson.memberEntries, FromJson.tailEntries]

theorem exists_shape_named {field : TextDraft}
    (isDatatypes : field.typed = .ok "datatypes")
    (before after : List (TextDraft × Draft)) (tail : ObjectTail Draft)
    (record : String) :
    ∃ earlier later, ∀ node,
      Source.shape record (Draft.object (before ++ (field, node) :: after) tail) =
      .ok (.fields (earlier ++ (.ok (.name "datatypes"), .ok node) :: later)) := by
  let fieldEntry (entry : Read String × Read Draft) : Read FieldName × Read Draft :=
    (entry.1.map .name, entry.2)
  refine ⟨(FromJson.memberEntries before .closed).map fieldEntry,
    (FromJson.memberEntries after tail).map fieldEntry, fun node => ?_⟩
  show Except.ok
      (Shape.fields
        ((FromJson.memberEntries (before ++ (field, node) :: after) tail).map
          fieldEntry)) = _
  have head : fieldEntry (FromJson.orMalformed field.typed, .ok node) =
      (.ok (.name "datatypes"), .ok node) := by
    rw [isDatatypes]
    rfl
  rw [memberEntries_append, List.map_append, ← head]
  rfl

theorem inStep_readRecord (replaced : Replaced first second document other)
    (inStep : InStep related (readDatatypes first) (readDatatypes second)) :
    InStep (PartsApart related)
      (readRecord "ApiDescription" (apiDescriptionFields readDatatypes) {}
        document.root)
      (readRecord "ApiDescription" (apiDescriptionFields readDatatypes) {}
        other.root) := by
  cases replaced with
  | named isDatatypes before after tail trailing =>
      obtain ⟨earlier, later, shape⟩ :=
        exists_shape_named isDatatypes before after tail "ApiDescription"
      rw [readRecord, readRecord, shape, shape]
      have filled : InStep (PartsApart related)
          (readFields (apiDescriptionFields readDatatypes) {}
            (earlier ++ (.ok (.name "datatypes"), .ok first) :: later))
          (readFields (apiDescriptionFields readDatatypes) {}
            (earlier ++ (.ok (.name "datatypes"), .ok second) :: later)) := by
        rw [readFields_append, readFields_append]
        exact .bind_same fun parts => inStep_readFields_datatypes inStep later parts
      refine filled.bind fun left right same => ?_
      rw [find?_missing_eq inStep_apiDescriptionFields same]
      split
      · exact .error _ _
      · exact .ok same
  | placed name after tail trailing =>
      show InStep _ (within (.index 0) _ >>= _) (within (.index 0) _ >>= _)
      refine .bind_same fun parts => ?_
      refine (inStep_datatypesField inStep parts (.index 1)).bind
        fun left right same => ?_
      exact inStep_readValues inStep_laterFields _ _ _ _ _ same

/-- Descriptions that differ in their datatypes only. -/
def DescriptionsApart (related : List Datatype → List Datatype → Prop)
    (api other : ApiDescription) : Prop :=
  ∃ datatypes, related datatypes other.datatypes ∧ api = { other with datatypes }

theorem inStep_readApiDescription (replaced : Replaced first second document other)
    (inStep : InStep related (readDatatypes first) (readDatatypes second)) :
    InStep (DescriptionsApart related) (readApiDescription document.root)
      (readApiDescription other.root) := by
  refine (inStep_readRecord replaced inStep).bind ?_
  rintro _ right ⟨these, those, pair, given, rfl⟩
  exact .ok ⟨these, by rwa [given], rfl⟩

theorem outcomes_ofJson {text listed : String}
    (replaced : Replaced first second (.ofText text) (.ofText listed))
    (inStep : InStep related (readDatatypes first) (readDatatypes second)) :
    (∃ api other, ApiDescription.ofJson text = .ok api ∧
      ApiDescription.ofJson listed = .ok other ∧ DescriptionsApart related api other) ∨
      (ApiDescription.ofJson text).toOption = none ∧
        (ApiDescription.ofJson listed).toOption = none := by
  have readings := (inStep_readApiDescription replaced inStep).outcomes
  simp only [ApiDescription.ofJson, replaced.trailing_eq]
  rcases readings
    with ⟨api, other, readText, readListed, apart⟩ | ⟨_, _, readText, readListed⟩
  · rw [readText, readListed]
    cases (Json.Document.ofText listed).trailing with
    | true => exact .inr ⟨rfl, rfl⟩
    | false => exact .inl ⟨api, other, rfl, rfl, apart⟩
  · rw [readText, readListed]
    exact .inr ⟨rfl, rfl⟩

end Replaced

end Schema

/-! ## Descriptions in both forms -/

open Schema
open GodotSdk.Json (Draft TextDraft Value)

namespace ApiDescription

variable {text listed : String} {members : List (TextDraft × Draft)}

theorem eq_iff_nodup {keys : List String} {api other : ApiDescription}
    (apart : DescriptionsApart (OnePerKey keys) api other) :
    api = other ↔ keys.Nodup := by
  obtain ⟨kept, onePerKey, rfl⟩ := apart
  rw [← onePerKey.eq_iff]
  exact ⟨congrArg datatypes, fun same => by rw [same]⟩

/-- Whatever is read from an object of datatypes is read from the array of its values,
except for datatypes that only the array keeps. -/
theorem exists_keys_of_ofJson {api : ApiDescription}
    (replaced : Replaced (.object members .closed)
      (.array (members.map Prod.snd) .closed) (.ofText text) (.ofText listed))
    (read : ofJson text = .ok api) :
    ∃ keys other, memberKeys members = .ok keys ∧ ofJson listed = .ok other ∧
      DescriptionsApart (OnePerKey keys) api other := by
  have readable : ∃ keys, memberKeys members = .ok keys := by
    cases whole : readDatatypes (Draft.object members .closed) with
    | ok datatypes => exact exists_memberKeys_of_readDatatypes whole
    | error error =>
        -- Datatypes that cannot be read have no results, so they are in step with
        -- themselves in every relation.
        have inStep :
            InStep (fun _ _ => False) (readDatatypes (Draft.object members .closed))
            (readDatatypes (Draft.object members .closed)) := by
          rw [whole]
          exact .error error error
        rcases outcomes_ofJson replaced.self inStep
          with ⟨_, _, _, _, _, impossible, _⟩ | ⟨failed, _⟩
        · exact impossible.elim
        · rw [read] at failed
          cases failed
  obtain ⟨keys, readable⟩ := readable
  have outcomes := outcomes_ofJson replaced (inStep_readDatatypes readable)
  rcases outcomes with ⟨one, other, readOne, readOther, apart⟩ | ⟨failed, _⟩
  · obtain rfl : one = api := Except.ok.inj (readOne.symm.trans read)
    exact ⟨keys, other, readable, readOther, apart⟩
  · rw [read] at failed
    cases failed

/-- A text in which the datatypes are an object has the same outcome as the text in
which they are the array of its values, exactly if the keys can be read and none of them
comes again, or the other text has no description at all. -/
theorem sameOutcome_iff
    (replaced : Replaced (.object members .closed)
      (.array (members.map Prod.snd) .closed) (.ofText text) (.ofText listed)) :
    (ofJson text).toOption = (ofJson listed).toOption ↔
      (∃ keys, memberKeys members = .ok keys ∧ keys.Nodup) ∨
      (ofJson listed).toOption = none := by
  cases read : ofJson text with
  | ok api =>
      obtain ⟨keys, other, readable, readListed, apart⟩ :=
        exists_keys_of_ofJson replaced read
      rw [readListed, readable]
      simpa [Except.toOption] using eq_iff_nodup apart
  | error error =>
      refine ⟨fun same => .inr same.symm, ?_⟩
      rintro (⟨keys, readable, -⟩ | failed)
      · rcases outcomes_ofJson replaced (inStep_readDatatypes readable)
          with ⟨_, _, readText, _⟩ | ⟨_, failed⟩
        · cases read.symm.trans readText
        · exact failed.symm
      · exact failed.symm

/-- Datatypes at keys, as the members of an object. -/
def datatypeMembers (entries : List (String × Datatype)) : List (TextDraft × Draft) :=
  Draft.ofMembers (entries.map fun entry => (entry.1, encodeDatatype entry.2))

/-- A description that has a name and datatypes, in whichever form. -/
def cloudValue (datatypes : Value) : Value :=
  .object [("name", .string "Cloud"), ("datatypes", datatypes)]

/-- The description of datatypes at keys, as an object. -/
def keyedValue (entries : List (String × Datatype)) : Value :=
  cloudValue (.object (entries.map fun entry => (entry.1, encodeDatatype entry.2)))

/-- The description of the same datatypes, as an array. -/
def listedValue (entries : List (String × Datatype)) : Value :=
  cloudValue (.array (entries.map fun entry => encodeDatatype entry.2))

theorem whole_cloudValue {datatypes : Value} (whole : datatypes.Whole 5) :
    (cloudValue datatypes).Whole 6 :=
  .object <| List.forall_mem_cons.mpr ⟨.string "Cloud",
    List.forall_mem_cons.mpr ⟨whole, List.forall_mem_nil _⟩⟩

theorem whole_keyedValue (entries : List (String × Datatype)) :
    (keyedValue entries).Whole 6 :=
  whole_cloudValue <| .object <| List.forall_mem_map.mpr fun _ _ => whole_datatype _

theorem whole_listedValue (entries : List (String × Datatype)) :
    (listedValue entries).Whole 6 :=
  whole_cloudValue <| .array <| List.forall_mem_map.mpr fun _ _ => whole_datatype _

theorem replaced_render (entries : List (String × Datatype)) :
    Replaced (.object (datatypeMembers entries) .closed)
      (.array ((datatypeMembers entries).map Prod.snd) .closed)
      (.ofText (keyedValue entries).render) (.ofText (listedValue entries).render) := by
  have values : (datatypeMembers entries).map Prod.snd =
      Draft.ofItems (entries.map fun entry => encodeDatatype entry.2) := by
    simp [datatypeMembers, Draft.ofMembers_eq, Draft.ofItems_eq]
  rw [Json.Document.ofText_render (whole_keyedValue entries),
    Json.Document.ofText_render (whole_listedValue entries), values]
  exact .named rfl [(.ofText "name", .string (.ofText "Cloud"))] [] .closed false

/-- An item and a class of items. -/
def distinctEntries : List (String × Datatype) :=
  [("Item", ⟨"Item", [⟨"Class", .complex "Class", none, false, none, none, none⟩],
    none, none⟩), ("", ⟨"Class", [], some "What items have in common.", none⟩)]

theorem sameOutcome_iff_distinctEntries :
    Replaced (.object (datatypeMembers distinctEntries) .closed)
        (.array ((datatypeMembers distinctEntries).map Prod.snd) .closed)
        (.ofText (keyedValue distinctEntries).render)
          (.ofText (listedValue distinctEntries).render) ∧
      ofJson (listedValue distinctEntries).render =
        .ok ⟨"Cloud", distinctEntries.map Prod.snd, [], [], .empty⟩ ∧
      (ofJson (keyedValue distinctEntries).render).toOption =
        (ofJson (listedValue distinctEntries).render).toOption := by
  refine ⟨replaced_render distinctEntries, ?listed, ?same⟩
  case listed =>
    rw [ofJson_render (whole_listedValue distinctEntries)]
    rfl
  case same =>
    have keys : memberKeys (datatypeMembers distinctEntries) = .ok ["Item", ""] := rfl
    exact (sameOutcome_iff (replaced_render distinctEntries)).mpr
      (.inl ⟨_, keys, by decide⟩)

/-- An item that is defined twice. -/
def repeatedEntries : List (String × Datatype) :=
  [("Item", ⟨"Item", [⟨"Id", .string, none, false, none, none, none⟩], none, none⟩),
    ("Item", ⟨"Item", [], none, none⟩)]

/-- Of an item that is defined twice, one definition is lost without a word if the
datatypes are an object. If they are an array, the description is rejected. -/
theorem repeatedEntries_not_sameOutcome :
    Replaced (.object (datatypeMembers repeatedEntries) .closed)
        (.array ((datatypeMembers repeatedEntries).map Prod.snd) .closed)
        (.ofText (keyedValue repeatedEntries).render)
          (.ofText (listedValue repeatedEntries).render) ∧
      ofJson (keyedValue repeatedEntries).render =
        .ok ⟨"Cloud", [⟨"Item", [], none, none⟩], [], [], .empty⟩ ∧
      ofJson (listedValue repeatedEntries).render =
        .ok ⟨"Cloud", repeatedEntries.map Prod.snd, [], [], .empty⟩ ∧
      (∃ api, Sdk.standard.accept ⟨"Cloud", [⟨"Item", [], none, none⟩], [], [],
        .empty⟩ = .ok api) ∧
      Sdk.standard.accept ⟨"Cloud", repeatedEntries.map Prod.snd, [], [], .empty⟩ =
        .error (.repeatedDatatype "Item" "Cloud") := by
  refine ⟨replaced_render repeatedEntries, ?keyed, ?listed, ?once, ?twice⟩
  case keyed =>
    rw [ofJson_render (whole_keyedValue repeatedEntries)]
    rfl
  case listed =>
    rw [ofJson_render (whole_listedValue repeatedEntries)]
    rfl
  case once => exact ⟨_, Sdk.accept_standard (by decide)⟩
  case twice => rfl

end ApiDescription

end GodotSdk
