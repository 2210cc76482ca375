import GodotSdk.Text.Identifier.Table

/-!
# Identifiers

A name is an identifier if it starts with an underscore or a character with the Unicode
property `XID_Start` and goes on with characters that have `XID_Continue`.
-/

namespace GodotSdk.Text

/-- Whether a character has the property `XID_Start`. -/
def startsIdentifier (char : Char) : Bool :=
  identifierStarts.contains char

/-- Whether a character has the property `XID_Continue`. -/
def continuesIdentifier (char : Char) : Bool :=
  startsIdentifier char || identifierExtras.contains char

theorem continuesIdentifier_of_startsIdentifier (char : Char)
    (starts : startsIdentifier char = true) : continuesIdentifier char = true := by
  simp [continuesIdentifier, starts]

/-- Whether a sequence of characters is an identifier. -/
def isIdentifierText : List Char → Bool
  | [] => false
  | first :: rest =>
      (first == '_' || startsIdentifier first) && rest.all continuesIdentifier

/-- Whether a name is an identifier. -/
def isIdentifier (name : String) : Bool :=
  isIdentifierText name.toList

theorem continuesIdentifier_of_mem {name : String}
    (identifier : isIdentifier name = true) :
    ∀ char ∈ name.toList, continuesIdentifier char = true := by
  have underscore : continuesIdentifier '_' = true := by decide
  unfold isIdentifier isIdentifierText at identifier
  intro char member
  split at identifier
  · cases identifier
  · next first rest chars =>
      rw [Bool.and_eq_true, Bool.or_eq_true, beq_iff_eq, List.all_eq_true] at identifier
      rw [chars, List.mem_cons] at member
      cases member with
      | inr later => exact identifier.2 char later
      | inl same =>
          rw [same]
          cases identifier.1 with
          | inl mark => rw [mark, underscore]
          | inr starts => exact continuesIdentifier_of_startsIdentifier first starts

theorem ne_empty_of_isIdentifier {name : String}
    (identifier : isIdentifier name = true) : name ≠ "" := by
  rintro rfl
  exact absurd identifier (by decide)

/-- What begins as an identifier is one if it goes on as one. -/
theorem isIdentifier_append {name ending : String}
    (identifier : isIdentifier name = true)
    (continues : ending.toList.all continuesIdentifier = true) :
    isIdentifier (name ++ ending) = true := by
  unfold isIdentifier isIdentifierText at identifier ⊢
  rw [String.toList_append]
  split at identifier
  · cases identifier
  · next first rest chars =>
      rw [Bool.and_eq_true] at identifier
      simp only [chars, List.cons_append, List.all_append, identifier.1, identifier.2,
        continues, Bool.and_self]

end GodotSdk.Text
