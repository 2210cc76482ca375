import GodotSdk.Naming.Sanitizer

/-!
# Closed tables

The check that admits a sanitizer looks at the entries of a table only. It settles every
spelling of them all the same: names with equal case folding keep it when the same text
is put before or behind them. So a sanitizer exists exactly if no reserved name whatever
leads to another one.
-/

namespace GodotSdk

namespace Text

theorem equalFold_iff {left right : String} :
    equalFold left right = true ↔ fold left.toList = fold right.toList := by
  simp [equalFold]

theorem equalFold_branded (brand : String) {left right : String}
    (equal : equalFold left right = true) :
    equalFold (branded brand left) (branded brand right) = true := by
  rw [equalFold_iff] at equal ⊢
  simp only [branded, String.toList_append, fold_append, equal]

theorem equalFold_suffixed {left right : String} (equal : equalFold left right = true) :
    equalFold (suffixed left) (suffixed right) = true := by
  rw [equalFold_iff] at equal ⊢
  simp only [suffixed, String.toList_append, fold_append, equal]

end Text

namespace ReservedNames

/-- No name that is reserved, in whatever spelling, has a new name that is reserved as
well. -/
def Closed (table : ReservedNames) (brand : String) : Prop :=
  ∀ name, table.contains name = true →
    table.contains (branded brand name) = false ∧ table.contains (suffixed name) = false

variable {table : ReservedNames} {brand name : String}

theorem contains_iff :
    table.contains name = true ↔
      ∃ entry ∈ table.names, Text.equalFold name entry = true := by
  simp only [contains, List.any_eq_true]

/-- Whether a name is reserved depends on its case folding only. -/
theorem contains_congr {left right : String}
    (equal : Text.equalFold left right = true) :
    table.contains left = table.contains right := by
  have folded := Text.equalFold_iff.mp equal
  have same : Text.equalFold left = Text.equalFold right := by
    funext entry
    simp only [Text.equalFold, folded]
  simp only [contains, same]

theorem collisionAt?_eq_none_iff :
    table.collisionAt? brand name = none ↔
      table.contains (branded brand name) = false ∧
        table.contains (suffixed name) = false := by
  unfold collisionAt?
  cases table.contains (branded brand name) <;>
    cases table.contains (suffixed name) <;> simp

theorem collision?_eq_none_iff :
    table.collision? brand = none ↔
      ∀ entry ∈ table.names,
        table.contains (branded brand entry) = false ∧
          table.contains (suffixed entry) = false := by
  simp only [collision?, List.findSome?_eq_none_iff, collisionAt?_eq_none_iff]

/-- In a closed table, no spelling of a reserved name is reserved once the brand stands
before it. -/
theorem contains_branded (closed : table.collision? brand = none)
    (reserved : table.contains name = true) :
    table.contains (branded brand name) = false := by
  obtain ⟨entry, member, equal⟩ := contains_iff.mp reserved
  rw [contains_congr (Text.equalFold_branded brand equal)]
  exact (collision?_eq_none_iff.mp closed entry member).1

/-- In a closed table, no spelling of a reserved name is reserved with an underscore
behind it. -/
theorem contains_suffixed (closed : table.collision? brand = none)
    (reserved : table.contains name = true) :
    table.contains (suffixed name) = false := by
  obtain ⟨entry, member, equal⟩ := contains_iff.mp reserved
  rw [contains_congr (Text.equalFold_suffixed equal)]
  exact (collision?_eq_none_iff.mp closed entry member).2

/-- The names of a table as they are compared. -/
def foldings (table : ReservedNames) : List (List Char) :=
  table.names.map fun entry => Text.fold entry.toList

theorem contains_iff_mem_foldings :
    table.contains name = true ↔ Text.fold name.toList ∈ table.foldings := by
  simp only [contains_iff, foldings, List.mem_map, Text.equalFold_iff]
  exact exists_congr fun entry => and_congr_right fun _ => eq_comm

/-- A name with an ending that no entry has, in whatever case, is not reserved. -/
theorem contains_append_eq_false {ending : String}
    (foreign : ∀ folding ∈ table.foldings, ¬ Text.fold ending.toList <:+ folding)
    (name : String) :
    table.contains (name ++ ending) = false := by
  rw [Bool.eq_false_iff, ne_eq, contains_iff_mem_foldings, String.toList_append,
    Text.fold_append]
  intro reserved
  exact foreign _ reserved (List.suffix_append _ _)

/-- No entry ends one of some words, in whatever case. -/
def Foreign (table : ReservedNames) (words : List String) : Prop :=
  ∀ entry ∈ table.names, ∀ word ∈ words,
    ¬ Text.fold entry.toList <:+ Text.fold word.toList

theorem foreign_iff {words : List String} :
    table.Foreign words ↔ ∀ folding ∈ table.foldings, ∀ word ∈ words,
      ¬ folding <:+ Text.fold word.toList := by
  simp only [Foreign, foldings, List.forall_mem_map]

/-- A name that ends such a word is not reserved. -/
theorem contains_eq_false_of_suffix {words : List String}
    (foreign : table.Foreign words) {word : String}
    (among : word ∈ words) (suffix : name.toList <:+ word.toList) :
    table.contains name = false := by
  obtain ⟨before, whole⟩ := suffix
  rw [Bool.eq_false_iff, ne_eq, contains_iff]
  intro reserved
  obtain ⟨entry, member, equal⟩ := reserved
  apply foreign entry member word among
  rw [← whole, Text.fold_append, ← Text.equalFold_iff.mp equal]
  exact List.suffix_append _ _

theorem contains_of_mem (member : name ∈ table.names) : table.contains name = true := by
  apply contains_iff.mpr
  exact ⟨name, member, Text.equalFold_iff.mpr rfl⟩

/-- The check of the entries covers all names. -/
theorem collision?_eq_none_iff_closed :
    table.collision? brand = none ↔ table.Closed brand := by
  constructor
  · intro closed name reserved
    exact ⟨contains_branded closed reserved, contains_suffixed closed reserved⟩
  · intro closed
    apply collision?_eq_none_iff.mpr
    intro entry member
    exact closed entry (contains_of_mem member)

end ReservedNames

namespace Sanitizer

variable {table : ReservedNames} {brand : String}

theorem new_eq_ok (closed : table.collision? brand = none) :
    new table brand = .ok ⟨table, brand, closed⟩ := by
  unfold new
  split
  · next error collides => simp [closed] at collides
  · rfl

theorem collision?_eq_none_of_new {sanitizer : Sanitizer}
    (made : new table brand = .ok sanitizer) :
    table.collision? brand = none := by
  unfold new at made
  split at made
  · cases made
  · next closed => exact closed

theorem exists_new_iff_closed :
    (∃ sanitizer, new table brand = .ok sanitizer) ↔ table.Closed brand := by
  rw [← ReservedNames.collision?_eq_none_iff_closed]
  constructor
  · rintro ⟨sanitizer, made⟩
    exact collision?_eq_none_of_new made
  · intro closed
    exact ⟨_, new_eq_ok closed⟩

theorem reserved_of_new {sanitizer : Sanitizer}
    (made : new table brand = .ok sanitizer) :
    sanitizer.reserved = table := by
  unfold new at made
  split at made
  · cases made
  · cases made
    rfl

theorem brand_of_new {sanitizer : Sanitizer} (made : new table brand = .ok sanitizer) :
    sanitizer.brand = brand := by
  unfold new at made
  split at made
  · cases made
  · cases made
    rfl

variable (sanitizer : Sanitizer) {name : String}

@[simp] theorem isReserved_className (name : String) :
    sanitizer.isReserved (sanitizer.className name) = false := by
  unfold className
  split
  · next reserved => exact ReservedNames.contains_branded sanitizer.closed reserved
  · next free => simpa using free

@[simp] theorem isReserved_propertyName (name : String) :
    sanitizer.isReserved (sanitizer.propertyName name) = false := by
  unfold propertyName
  split
  · next reserved => exact ReservedNames.contains_suffixed sanitizer.closed reserved
  · next free => simpa using free

theorem className_of_free (free : sanitizer.isReserved name = false) :
    sanitizer.className name = name := by
  simp [className, free]

theorem propertyName_of_free (free : sanitizer.isReserved name = false) :
    sanitizer.propertyName name = name := by
  simp [propertyName, free]

/-- A name stays as it is exactly if it is not reserved, for a new name never is. -/
theorem className_eq_self_iff :
    sanitizer.className name = name ↔ sanitizer.isReserved name = false := by
  constructor
  · intro same
    rw [← same]
    exact sanitizer.isReserved_className name
  · exact sanitizer.className_of_free

theorem propertyName_eq_self_iff :
    sanitizer.propertyName name = name ↔ sanitizer.isReserved name = false := by
  constructor
  · intro same
    rw [← same]
    exact sanitizer.isReserved_propertyName name
  · exact sanitizer.propertyName_of_free

@[simp] theorem className_className (name : String) :
    sanitizer.className (sanitizer.className name) = sanitizer.className name :=
  sanitizer.className_of_free (sanitizer.isReserved_className name)

@[simp] theorem propertyName_propertyName (name : String) :
    sanitizer.propertyName (sanitizer.propertyName name) =
      sanitizer.propertyName name :=
  sanitizer.propertyName_of_free (sanitizer.isReserved_propertyName name)

/-- What a sanitizer gives for a name is not in the table, and is kept if it is asked
for again. -/
structure Settles (sanitizer : Sanitizer) (table : ReservedNames) (name : String) :
    Prop where
  freeClass : table.contains (sanitizer.className name) = false
  freeProperty : table.contains (sanitizer.propertyName name) = false
  sameClass : sanitizer.className (sanitizer.className name) = sanitizer.className name
  sameProperty : sanitizer.propertyName (sanitizer.propertyName name) =
    sanitizer.propertyName name

theorem settles_reserved (name : String) :
    sanitizer.Settles sanitizer.reserved name where
  freeClass := sanitizer.isReserved_className name
  freeProperty := sanitizer.isReserved_propertyName name
  sameClass := sanitizer.className_className name
  sameProperty := sanitizer.propertyName_propertyName name

/-- A table and a brand have a sanitizer exactly if no spelling of a reserved name leads
to another reserved name. What the sanitizer gives for any name is then settled. -/
theorem exists_new_iff_closed_and_settles (table : ReservedNames) (brand : String) :
    ((∃ sanitizer, new table brand = .ok sanitizer) ↔ table.Closed brand) ∧
      ∀ sanitizer, new table brand = .ok sanitizer →
        ∀ name, sanitizer.Settles table name := by
  constructor
  · exact exists_new_iff_closed
  · intro sanitizer made name
    rw [← reserved_of_new made]
    exact sanitizer.settles_reserved name

/-- Names with a ligature and a sharp s, which are spelled in other ways as well. -/
def manySpellings : Sanitizer :=
  ⟨⟨["ﬁle", "Straße"]⟩, "My", by decide⟩

theorem exists_new_iff_closed_and_settles_manySpellings :
    new ⟨["ﬁle", "Straße"]⟩ "My" = .ok manySpellings ∧
      ReservedNames.contains ⟨["ﬁle", "Straße"]⟩ "STRASSE" = true ∧
      ReservedNames.contains ⟨["ﬁle", "Straße"]⟩ (branded "My" "STRASSE") = false ∧
      manySpellings.Settles ⟨["ﬁle", "Straße"]⟩ "FILE" := by
  have made : new ⟨["ﬁle", "Straße"]⟩ "My" = .ok manySpellings :=
    new_eq_ok manySpellings.closed
  have reserved : ReservedNames.contains ⟨["ﬁle", "Straße"]⟩ "STRASSE" = true := by
    decide +kernel
  obtain ⟨closes, settles⟩ := exists_new_iff_closed_and_settles ⟨["ﬁle", "Straße"]⟩ "My"
  exact ⟨made, reserved, (closes.mp ⟨manySpellings, made⟩ "STRASSE" reserved).1,
    settles manySpellings made "FILE"⟩

/-- Only the full case folding tells that the brand leads from one of these names to the
other. -/
example : ReservedNames.collision? ⟨["ß", "XSS"]⟩ "x" =
    some (.prefixCollision "x" "ß") := by decide

end Sanitizer

end GodotSdk
