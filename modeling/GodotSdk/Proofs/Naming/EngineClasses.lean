import GodotSdk.Proofs.Naming.Closure

/-!
# Engine classes

No engine class ends the name of another one, in whatever case, and case folding takes
no character away. So whatever stands before the name of an engine class leads to no
other one, as long as anything stands there: the engine classes have a sanitizer for
every brand but the empty one.
-/

namespace GodotSdk

namespace Text

theorem mem_of_findAscending {entries : List (Nat × List Nat)} {code : Nat}
    {image : List Nat}
    (found : findAscending entries code = some image) : (code, image) ∈ entries := by
  induction entries with
  | nil => cases found
  | cons entry rest ih =>
      unfold findAscending at found
      split at found
      · cases found
      · split at found
        · next same =>
            obtain rfl := Option.some.inj found
            rw [same]
            exact List.mem_cons_self
        · exact List.mem_cons_of_mem _ (ih found)

/-- Case folding leaves something of every character. -/
theorem foldChar_ne_nil (char : Char) : foldChar char ≠ [] := by
  have expansions : (foldExpansions.all fun entry => !entry.2.isEmpty) = true := by
    decide
  unfold foldChar
  split
  · next image found =>
      have nonempty := List.all_eq_true.mp expansions _ (mem_of_findAscending found)
      simpa using nonempty
  · split <;> simp

theorem fold_eq_nil_iff {text : List Char} : fold text = [] ↔ text = [] := by
  rw [fold, List.flatMap_eq_nil_iff]
  constructor
  · intro erased
    apply List.eq_nil_iff_forall_not_mem.mpr
    intro char member
    exact foldChar_ne_nil char (erased char member)
  · rintro rfl
    exact List.forall_mem_nil _

end Text

namespace ReservedNames

/-- No name of a table ends another one, in whatever case. -/
def SuffixFree (table : ReservedNames) : Prop :=
  ∀ entry ∈ table.names, ∀ other ∈ table.names,
    Text.fold entry.toList <:+ Text.fold other.toList →
      Text.fold entry.toList = Text.fold other.toList

variable {table : ReservedNames} {brand entry : String}

theorem suffixFree_iff :
    table.SuffixFree ↔ ∀ first ∈ table.foldings, ∀ second ∈ table.foldings,
      first <:+ second → first = second := by
  simp only [SuffixFree, foldings, List.forall_mem_map]

/-- What stands before a name of such a table makes no other name of it. -/
theorem contains_branded_of_suffixFree (free : table.SuffixFree) (brands : brand ≠ "")
    (member : entry ∈ table.names) : table.contains (branded brand entry) = false := by
  rw [Bool.eq_false_iff, ne_eq, contains_iff]
  intro reserved
  obtain ⟨other, among, equal⟩ := reserved
  rw [Text.equalFold_iff, branded, String.toList_append, Text.fold_append] at equal
  have same : Text.fold entry.toList = Text.fold other.toList :=
    free entry member other among ⟨_, equal⟩
  have nothing : Text.fold brand.toList = [] := by
    rw [← same] at equal
    exact List.append_left_eq_self.mp equal
  exact brands (String.toList_eq_nil_iff.mp (Text.fold_eq_nil_iff.mp nothing))

/-! ## The table -/

/-- The engine classes as they are compared. -/
def engineFoldings : List (List Char) := [
  ['c', 'o', 'n', 't', 'a', 'i', 'n', 'e', 'r'],
  ['r', 'e', 's', 'o', 'u', 'r', 'c', 'e'], ['i', 'm', 'a', 'g', 'e'],
  ['t', 'i', 'm', 'e'], ['o', 's'], ['n', 'o', 'd', 'e'],
  ['o', 'b', 'j', 'e', 'c', 't'], ['f', 'i', 'l', 'e'],
  ['d', 'i', 'r', 'e', 'c', 't', 'o', 'r', 'y'], ['t', 'h', 'r', 'e', 'a', 'd'],
  ['m', 'u', 't', 'e', 'x'], ['s', 'e', 'm', 'a', 'p', 'h', 'o', 'r', 'e'],
  ['e', 'n', 'g', 'i', 'n', 'e'], ['i', 'n', 'p', 'u', 't'],
  ['c', 'a', 'm', 'e', 'r', 'a'], ['l', 'i', 'g', 'h', 't'],
  ['t', 'e', 'x', 't', 'u', 'r', 'e'], ['m', 'a', 't', 'e', 'r', 'i', 'a', 'l'],
  ['s', 'h', 'a', 'd', 'e', 'r'], ['a', 'n', 'i', 'm', 'a', 't', 'i', 'o', 'n'],
  ['a', 'u', 'd', 'i', 'o', 's', 't', 'r', 'e', 'a', 'm'],
  ['v', 'i', 'd', 'e', 'o', 's', 't', 'r', 'e', 'a', 'm'],
  ['p', 'a', 'c', 'k', 'e', 'd', 's', 'c', 'e', 'n', 'e']]

theorem foldings_engineClasses : engineClasses.foldings = engineFoldings := by
  -- The characters of the literals are taken out first, since the kernel is slow to
  -- decode them.
  simp only [foldings, engineClasses, List.map_cons, List.map_nil]
  repeat rw [String.toList_ofList]
  decide

/-- Whether a name is one of the engine classes, decided of its characters. -/
def isEngineClass (name : String) : Bool :=
  engineFoldings.contains (Text.fold name.toList)

theorem contains_engineClasses : engineClasses.contains = isEngineClass := by
  funext name
  rw [Bool.eq_iff_iff, contains_iff_mem_foldings, foldings_engineClasses, isEngineClass,
    List.contains_iff_mem]

theorem suffixFree_engineClasses : engineClasses.SuffixFree := by
  rw [suffixFree_iff, foldings_engineClasses]
  decide +kernel

/-- No engine class ends in an underscore, in whatever case. -/
theorem contains_suffixed_engineClasses (name : String) :
    engineClasses.contains (suffixed name) = false := by
  apply contains_append_eq_false
  rw [foldings_engineClasses]
  decide

theorem collisionAt?_engineClasses (brands : brand ≠ "")
    (member : entry ∈ engineClasses.names) :
    engineClasses.collisionAt? brand entry = none := by
  apply collisionAt?_eq_none_iff.mpr
  constructor
  · exact contains_branded_of_suffixFree suffixFree_engineClasses brands member
  · exact contains_suffixed_engineClasses entry

/-- The classes of the engine collide under the empty brand, and under no other one. -/
theorem collision?_engineClasses_iff :
    engineClasses.collision? brand = none ↔ brand ≠ "" := by
  constructor
  · rintro closed rfl
    have entry : "Container" ∈ engineClasses.names := List.mem_cons_self
    have kept := (collision?_eq_none_iff.mp closed "Container" entry).1
    rw [branded, String.empty_append, contains_of_mem entry] at kept
    cases kept
  · intro brands
    rw [collision?, List.findSome?_eq_none_iff]
    intro entry member
    exact collisionAt?_engineClasses brands member

end ReservedNames

namespace Sanitizer

/-- The sanitizer for the classes of the engine and the standard brand. -/
def standard : Sanitizer :=
  ⟨.engineClasses, "PlayFab",
    ReservedNames.collision?_engineClasses_iff.mpr (by decide)⟩

theorem new_standard : new .engineClasses "PlayFab" = .ok standard :=
  new_eq_ok standard.closed

end Sanitizer

end GodotSdk
