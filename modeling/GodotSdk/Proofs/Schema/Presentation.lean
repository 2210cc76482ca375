import GodotSdk.Proofs.Json.Printing
import GodotSdk.Schema.FromJson
import GodotSdk.Schema.FromValue

/-!
# JSON values in other sources

The draft of a JSON value and the data in it read whole present the value as what it is.
What holds of all sources that do so is shown once and holds of both.
-/

namespace GodotSdk.Schema

open GodotSdk.Json (Draft Value)

/-- Nodes that stand for JSON values and present them as what they are. -/
structure Presents {ν : Type} [Source ν] (node : Value → ν) : Prop where
  text (text : String) : Source.text (node (.string text)) = .ok text
  bool (value : Bool) : Source.bool (node (.bool value)) = .ok value
  int (value : Int64) : Source.int (node (.number (.int value.toInt))) = .ok value
  optional {value : Value} (given : value ≠ .null) : Source.optional (node value) =
    .ok (some (node value))
  items (items : List Value) : Source.items (node (.array items)) =
    .ok (items.map fun item => .ok (node item))
  entries (members : List (String × Value)) :
    Source.entries (node (.object members)) =
      .ok (members.map fun member => (.ok member.1, .ok (node member.2)))
  shape (record : String) (members : List (String × Value)) :
    Source.shape record (node (.object members)) =
      .ok (.fields (members.map fun member =>
        (.ok (.name member.1), .ok (node member.2))))
  variant (variants : List String) (name : String) :
    Source.variant variants (node (.string name)) = variantNamed variants name

theorem orMalformed_ofText (text : String) :
    FromJson.orMalformed (Json.TextDraft.ofText text).typed = .ok text :=
  rfl

theorem memberEntries_ofMembers (members : List (String × Value)) :
    FromJson.memberEntries (Draft.ofMembers members) .closed =
      members.map fun member => (.ok member.1, .ok (.ofValue member.2)) := by
  simp [FromJson.memberEntries, FromJson.tailEntries, Draft.ofMembers_eq,
    orMalformed_ofText]

theorem presents_draft : Presents Draft.ofValue where
  text text := rfl
  bool value := rfl
  int value := by
    show FromJson.intOfNumber (.int value.toInt) = .ok value
    rw [FromJson.intOfNumber, if_pos value.toInt_le, Int64.ofInt_toInt]
  optional {value} given := by
    cases value with
    | null => exact absurd rfl given
    | _ => rfl
  items items := by
    show Except.ok _ = _
    simp [FromJson.tailItems, Json.ListTail.typed?, Draft.ofItems_eq]
  entries members := by
    show Except.ok (FromJson.memberEntries (Draft.ofMembers members) .closed) = _
    rw [memberEntries_ofMembers]
  shape record members := by
    show Except.ok (Shape.fields
        ((FromJson.memberEntries (Draft.ofMembers members) .closed).map _)) = _
    simp [memberEntries_ofMembers, Except.map]
  variant variants name := rfl

/-! ## Data read whole -/

theorem itemContents_eq (items : List Value) :
    FromValue.itemContents items = items.map FromValue.asContent := by
  induction items with
  | nil => rfl
  | cons item rest ih => rw [FromValue.itemContents, ih, List.map_cons]

theorem memberContents_eq (members : List (String × Value)) :
    FromValue.memberContents members = members.map fun member =>
      (.text member.1, FromValue.asContent member.2) := by
  induction members with
  | nil => rfl
  | cons member rest ih => rw [FromValue.memberContents, ih, List.map_cons]

theorem presents_content : Presents FromValue.asContent where
  text text := rfl
  bool value := rfl
  int value := by
    show Content.asInt (FromValue.asContent _) = _
    rw [FromValue.asContent]
    split
    · next positive =>
        have same : (value.toInt.toNat : Int) = value.toInt :=
          Int.toNat_of_nonneg positive
        rw [Content.asInt, same, if_pos value.toInt_le, ← Int64.ofInt_eq_ofNat, same,
          Int64.ofInt_toInt]
    · rw [Content.asInt, Int64.ofInt_toInt]
  optional {value} given := by
    cases value with
    | null => exact absurd rfl given
    | number value =>
        cases value with
        | int value =>
            show Content.asOptional (FromValue.asContent _) = _
            rw [FromValue.asContent]
            split <;> rfl
        | float value => rfl
    | _ => rfl
  items items := by
    show Except.ok _ = _
    simp [itemContents_eq]
  entries members := by
    show Except.ok _ = _
    simp [memberContents_eq, Content.asText]
  shape record members := by
    show Except.ok (Shape.fields _) = _
    simp [memberContents_eq, Content.fieldName]
  variant variants name := rfl

section Whole

variable {depth : Nat}

theorem itemContents_ofItems {items : List Value} (position : Nat)
    (read : ∀ item ∈ items, FromJson.asContent depth (.ofValue item) =
      .ok (FromValue.asContent item)) :
    FromJson.itemContents depth position (Draft.ofItems items) .closed =
      .ok (FromValue.itemContents items) := by
  induction items generalizing position with
  | nil => rfl
  | cons item items ih =>
      obtain ⟨readItem, readItems⟩ := List.forall_mem_cons.mp read
      rw [Draft.ofItems, FromJson.itemContents, readItem, ih _ readItems]
      rfl

theorem memberContents_ofMembers {members : List (String × Value)}
    (read : ∀ member ∈ members, FromJson.asContent depth (.ofValue member.2) =
      .ok (FromValue.asContent member.2)) :
    FromJson.memberContents depth (Draft.ofMembers members) .closed =
      .ok (FromValue.memberContents members) := by
  induction members with
  | nil => rfl
  | cons member members ih =>
      obtain ⟨readMember, readMembers⟩ := List.forall_mem_cons.mp read
      rw [Draft.ofMembers, FromJson.memberContents, orMalformed_ofText]
      simp only [readMember, ih readMembers]
      rfl

/-- Reading the draft of a value whole gives the data in the value. -/
theorem asContent_ofValue {value : Value} (whole : value.Whole depth) :
    FromJson.asContent depth (.ofValue value) = .ok (FromValue.asContent value) := by
  induction whole with
  | null | bool | string => rfl
  | @int _ value => rw [Draft.ofValue, FromJson.asContent, FromValue.asContent]; rfl
  | array whole ih =>
      rw [Draft.ofValue, FromJson.asContent, itemContents_ofItems 0 ih]; rfl
  | object whole ih =>
      rw [Draft.ofValue, FromJson.asContent, memberContents_ofMembers ih]; rfl

end Whole

end GodotSdk.Schema
