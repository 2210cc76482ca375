import GodotSdk.Naming.SdkNames
import Mathlib.Data.List.Basic

/-!
# Names of functions

The name of a function is the snake case of that of a call, and has no capital letters.
The class of a client script ends in capital letters, so no function has its name.
-/

namespace GodotSdk

namespace Text

/-- Runs that lead to nothing below a bound map nothing there. -/
theorem le_of_mapByRuns {runs : List Run} {bound code image : Nat}
    (high : ∀ run ∈ runs, bound ≤ run.target)
    (mapped : mapByRuns runs code = some image) : bound ≤ image := by
  induction runs with
  | nil => cases mapped
  | cons run rest ih =>
      rw [List.forall_mem_cons] at high
      have later := ih high.2
      have here := high.1
      unfold mapByRuns at mapped
      split at mapped
      · cases mapped
      · split at mapped
        · split at mapped
          · have same := Option.some.inj mapped
            omega
          · exact later mapped
        · exact later mapped

theorem isUpper_iff (char : Char) :
    char.isUpper = true ↔ 65 ≤ char.toNat ∧ char.toNat ≤ 90 := by
  unfold Char.isUpper
  simp [UInt32.le_iff_toNat_le, ← Char.toNat_val]

/-- A character of a lower case is the character itself if that has none, or else lies
above the capital letters. -/
theorem mem_lowerChar {char image : Char} (member : image ∈ lowerChar char) :
    (image = char ∧ mapByRuns lowerRuns char.toNat = none) ∨ 97 ≤ image.toNat ∨
      image = '\x00' := by
  unfold lowerChar at member
  split at member
  · simp only [List.mem_cons, List.not_mem_nil, or_false] at member
    rcases member with rfl | rfl <;> exact .inr (.inl (by decide))
  · split at member
    · next code mapped =>
        have high : 97 ≤ code := le_of_mapByRuns (by decide +kernel) mapped
        rw [List.mem_singleton.mp member]
        by_cases valid : code.isValidChar
        · have same : (Char.ofNat code).toNat = code := by
            rw [Char.ofNat, dif_pos valid]
            rfl
          exact .inr (.inl (by omega))
        · exact .inr (.inr (by rw [Char.ofNat, dif_neg valid]; rfl))
    · next unmapped => exact .inl ⟨List.mem_singleton.mp member, unmapped⟩

theorem isUpper_of_mem_lowerChar {char image : Char} (member : image ∈ lowerChar char) :
    image.isUpper = false := by
  rw [Bool.eq_false_iff, ne_eq, isUpper_iff]
  rcases mem_lowerChar member with ⟨rfl, unmapped⟩ | high | rfl
  · -- The first run has all capital letters.
    intro capital
    have first : ¬ image.toNat < 65 := by omega
    simp [lowerRuns, mapByRuns, first, capital.2, Nat.mod_one] at unmapped
  · omega
  · decide

theorem isUpper_of_mem_lowerWord {word : List Char} {image : Char}
    (member : image ∈ lowerWord word) :
    image.isUpper = false := by
  fun_induction lowerWord word with
  | case1 => cases member
  | case2 =>
      rw [List.mem_singleton.mp member]
      decide
  | case3 char rest _ ih =>
      cases List.mem_append.mp member with
      | inl here => exact isUpper_of_mem_lowerChar here
      | inr later => exact ih later

theorem mem_of_mem_intersperse {α : Type} {separator value : α} {values : List α}
    (member : value ∈ values.intersperse separator) :
    value = separator ∨ value ∈ values := by
  fun_induction List.intersperse separator values with
  | case1 => cases member
  | case2 => exact .inr member
  | case3 first rest nonempty ih =>
      rw [List.mem_cons, List.mem_cons] at member
      rcases member with here | between | later
      · exact .inr (List.mem_cons.mpr (.inl here))
      · exact .inl between
      · exact (ih later).imp_right (List.mem_cons_of_mem first)

/-- A name in snake case has no capital letters. -/
theorem isUpper_of_mem_snakeCase {name : String} {char : Char}
    (member : char ∈ (snakeCase name).toList) :
    char.isUpper = false := by
  rw [snakeCase, String.toList_ofList, List.intercalate, List.mem_flatten] at member
  obtain ⟨part, among, within⟩ := member
  cases mem_of_mem_intersperse among with
  | inl separator =>
      rw [separator, List.mem_singleton] at within
      rw [within]
      decide
  | inr lowered =>
      obtain ⟨word, _, same⟩ := List.mem_map.mp lowered
      rw [← same] at within
      exact isUpper_of_mem_lowerWord within

end Text

/-- No function has the name of the class of a client script. -/
theorem methodName_ne_clientClass (call : String) (names : SdkNames) (api : String) :
    methodName call ≠ names.clientClass api := by
  intro same
  have last : 'I' ∈ (methodName call).toList := by
    rw [same, SdkNames.clientClass, String.toList_append]
    exact List.mem_append_right _ (by decide)
  have lower : 'I'.isUpper = false := Text.isUpper_of_mem_snakeCase last
  cases lower

end GodotSdk
