import GodotSdk.Proofs.Text.Wrap
import Mathlib.Algebra.GroupWithZero.Nat
import Mathlib.Data.List.Forall2

/-!
# Columns of text

A text is read as glyphs, which are characters and control sequences. Glyphs that follow
each other in a text are read in the same way by themselves, so their columns add up.
Without control sequences the columns of texts add up, and there are no more of them
than bytes.
-/

namespace GodotSdk.Text

/-! ## Glyphs in sequence -/

section Sequences

variable {taken kept rest : List Char}

/-- What follows a part of a text is the text only if there is none. -/
theorem eq_nil_of_shorter {after : List Char → List Char}
    (shorter : ∀ char rest, (after (char :: rest)).length ≤ rest.length)
    {text : List Char} (same : after text = text) :
    text = [] := by
  cases text with
  | nil => rfl
  | cons char rest =>
      have bound := shorter char rest
      rw [same, List.length_cons] at bound
      omega

theorem length_afterFinal_cons_le (char : Char) (rest : List Char) :
    (afterFinal (char :: rest)).length ≤ rest.length := by
  rw [afterFinal]
  split
  · exact Nat.le_refl _
  · exact afterFinal_length_le rest

theorem length_afterCommand_cons_le (previous char : Char) (rest : List Char) :
    (afterCommand previous (char :: rest)).length ≤ rest.length := by
  rw [afterCommand]
  split
  · exact Nat.le_refl _
  · exact afterCommand_length_le rest char

theorem length_afterEscape_cons_le (char : Char) (rest : List Char) :
    (afterEscape (char :: rest)).length ≤ rest.length := by
  unfold afterEscape
  split
  · simp
  · simp_all [afterFinal_length_le]
  · simp_all [afterCommand_length_le]
  · simp_all

/-- Where a sequence ends does not depend on how far the text goes on. -/
theorem afterFinal_append (ends : afterFinal (taken ++ (kept ++ rest)) = kept ++ rest) :
    afterFinal (taken ++ kept) = kept := by
  induction taken with
  | nil =>
      have nothing := eq_nil_of_shorter length_afterFinal_cons_le ends
      rw [List.nil_append, List.append_eq_nil_iff] at nothing
      rw [nothing.1]
      rfl
  | cons char others ih =>
      simp only [List.cons_append, afterFinal] at ends ⊢
      split at ends
      · next final =>
          rw [if_pos final, List.append_left_eq_self.mp ends, List.nil_append]
      · next inner => rw [if_neg inner, ih ends]

theorem afterCommand_append {previous : Char}
    (ends : afterCommand previous (taken ++ (kept ++ rest)) = kept ++ rest) :
    afterCommand previous (taken ++ kept) = kept := by
  induction taken generalizing previous with
  | nil =>
      have nothing := eq_nil_of_shorter (length_afterCommand_cons_le previous) ends
      rw [List.nil_append, List.append_eq_nil_iff] at nothing
      rw [nothing.1]
      rfl
  | cons char others ih =>
      simp only [List.cons_append, afterCommand] at ends ⊢
      split at ends
      · next final =>
          rw [if_pos final, List.append_left_eq_self.mp ends, List.nil_append]
      · next inner => rw [if_neg inner, ih ends]

theorem afterEscape_append
    (ends : afterEscape (taken ++ (kept ++ rest)) = kept ++ rest) :
    afterEscape (taken ++ kept) = kept := by
  cases taken with
  | nil =>
      have nothing := eq_nil_of_shorter length_afterEscape_cons_le ends
      rw [List.nil_append, List.append_eq_nil_iff] at nothing
      rw [nothing.1]
      rfl
  | cons char others =>
      by_cases control : char = '['
      · subst control
        exact afterFinal_append ends
      · by_cases command : char = ']'
        · subst command
          exact afterCommand_append ends
        · have single (text : List Char) : afterEscape (char :: text) = text := by
            unfold afterEscape
            split <;> simp_all
          rw [List.cons_append, single] at ends ⊢
          rw [List.append_left_eq_self.mp ends, List.nil_append]

end Sequences

/-- Glyphs that are read again from their characters. -/
def Readable (shapes : List Glyph) : Prop :=
  glyphs (shapes.flatMap Glyph.chars) = shapes

theorem readable_glyphs (text : List Char) : Readable (glyphs text) := by
  rw [Readable, flatMap_glyphs]

theorem glyphs_of_plain {char : Char} (plain : char ≠ '\x1b') (rest : List Char) :
    glyphs (char :: rest) = ⟨[char], some char⟩ :: glyphs rest := by
  rw [glyphs, if_neg plain]

theorem glyphs_of_escape {taken rest : List Char}
    (ends : afterEscape (taken ++ rest) = rest) :
    glyphs ('\x1b' :: (taken ++ rest)) = ⟨'\x1b' :: taken, none⟩ :: glyphs rest := by
  rw [glyphs, if_pos rfl, ends]
  simp

/-- A glyph is a character or an escape sequence, and what follows it is read by
itself. -/
theorem readable_cons_iff {glyph : Glyph} {rest : List Glyph} :
    Readable (glyph :: rest) ↔
      Readable rest ∧ ((∃ char, char ≠ '\x1b' ∧ glyph = ⟨[char], some char⟩) ∨
        ∃ taken, glyph = ⟨'\x1b' :: taken, none⟩ ∧
          afterEscape (taken ++ rest.flatMap Glyph.chars) =
            rest.flatMap Glyph.chars) := by
  constructor
  · intro readable
    rw [Readable, List.flatMap_cons] at readable
    cases chars : glyph.chars ++ rest.flatMap Glyph.chars with
    | nil => simp [chars, glyphs] at readable
    | cons char text =>
        rw [chars] at readable
        by_cases escape : char = '\x1b'
        · subst escape
          rw [glyphs, if_pos rfl, List.cons.injEq] at readable
          obtain ⟨rfl, others⟩ := readable
          have after : afterEscape text = rest.flatMap Glyph.chars := by
            rw [← others, flatMap_glyphs]
          refine ⟨by rw [Readable, ← after, others], .inr ⟨_, rfl, ?_⟩⟩
          rw [← after, take_append_of_suffix (afterEscape_suffix text)]
        · rw [glyphs_of_plain escape, List.cons.injEq] at readable
          obtain ⟨rfl, others⟩ := readable
          have after : text = rest.flatMap Glyph.chars := by
            rw [← others, flatMap_glyphs]
          exact ⟨by rw [Readable, ← after, others], .inl ⟨char, escape, rfl⟩⟩
  · rintro ⟨readable, ⟨char, plain, rfl⟩ | ⟨taken, rfl, ends⟩⟩
    · rw [Readable, List.flatMap_cons, List.singleton_append,
        glyphs_of_plain plain, readable]
    · rw [Readable, List.flatMap_cons, List.cons_append,
        glyphs_of_escape ends, readable]

theorem readable_append {first second : List Glyph}
    (readable : Readable (first ++ second)) :
    Readable first ∧ Readable second := by
  induction first with
  | nil => exact ⟨by simp [Readable, glyphs], readable⟩
  | cons glyph rest ih =>
      rw [List.cons_append] at readable
      obtain ⟨others, shape⟩ := readable_cons_iff.mp readable
      refine ⟨readable_cons_iff.mpr ⟨(ih others).1, shape.imp_right ?_⟩, (ih others).2⟩
      rintro ⟨taken, same, ends⟩
      rw [List.flatMap_append] at ends
      exact ⟨taken, same, afterEscape_append ends⟩

/-- The columns of glyphs. -/
def columns (shapes : List Glyph) : Nat :=
  (shapes.map Glyph.width).sum

theorem displayWidth_eq (text : List Char) :
    displayWidth text = columns (glyphs text) := by
  rw [displayWidth, columns, List.sum_eq_foldl, List.foldl_map]

theorem displayWidth_of_readable {shapes : List Glyph} (readable : Readable shapes) :
    displayWidth (shapes.flatMap Glyph.chars) = columns shapes := by
  rw [displayWidth_eq, readable]

theorem width_le (glyph : Glyph) : glyph.width ≤ 3 := by
  unfold Glyph.width
  cases glyph.shown with
  | none => decide
  | some char =>
      simp only [Option.map_some, Option.getD_some, charWidth]
      split_ifs <;> decide

/-! ## Text without control sequences -/

theorem glyphs_append {left : List Char} (plain : '\x1b' ∉ left) (right : List Char) :
    glyphs (left ++ right) = glyphs left ++ glyphs right := by
  induction left with
  | nil => simp [glyphs]
  | cons char rest ih =>
      rw [List.mem_cons, not_or] at plain
      rw [List.cons_append, glyphs_of_plain (Ne.symm plain.1),
        glyphs_of_plain (Ne.symm plain.1), ih plain.2, List.cons_append]

theorem displayWidth_append {left : List Char} (plain : '\x1b' ∉ left)
    (right : List Char) :
    displayWidth (left ++ right) = displayWidth left + displayWidth right := by
  simp only [displayWidth_eq, glyphs_append plain, columns, List.map_append,
    List.sum_append]

theorem displayWidth_cons {char : Char} (plain : char ≠ '\x1b') (rest : List Char) :
    displayWidth (char :: rest) = charWidth char + displayWidth rest := by
  simp [displayWidth_eq, glyphs_of_plain plain, columns, Glyph.width]

theorem displayWidth_nil : displayWidth [] = 0 := by
  simp [displayWidth, glyphs]

theorem displayWidth_replicate (count : Nat) :
    displayWidth (List.replicate count ' ') = count := by
  have single : charWidth ' ' = 1 := by decide
  induction count with
  | zero => exact displayWidth_nil
  | succ count ih =>
      rw [List.replicate_succ, displayWidth_cons (by decide), ih, single, Nat.add_comm]

theorem three_le_utf8Size {char : Char} (above : 0x7FF < char.toNat) :
    3 ≤ char.utf8Size := by
  have two : ¬ char.utf8Size = 2 := by
    rw [Char.utf8Size_eq_two_iff, UInt32.le_iff_toNat_le]
    exact fun within => Nat.not_lt.mpr within.2 above
  have one : ¬ char.utf8Size = 1 := by
    rw [Char.utf8Size_eq_one_iff, UInt32.le_iff_toNat_le]
    exact fun within => Nat.not_lt.mpr (Nat.le_trans within (by decide)) above
  have sizes := char.utf8Size_eq
  omega

/-- A character takes no more columns than bytes: all that are two columns wide take
three bytes or more. -/
theorem charWidth_le (char : Char) : charWidth char ≤ char.utf8Size := by
  unfold charWidth
  split_ifs with sign _ double
  · exact three_le_utf8Size (by omega)
  · exact Nat.zero_le _
  · obtain ⟨range, among, bounds⟩ := exists_range_of_inRanges double
    have lowest : ∀ range ∈ doubleWidth.ranges, 0x7FF < range.1 := by decide +kernel
    exact Nat.le_of_succ_le
      (three_le_utf8Size (Nat.lt_of_lt_of_le (lowest range among) bounds.1))
  · exact char.utf8Size_pos

theorem displayWidth_le_bytes {text : List Char} (plain : '\x1b' ∉ text) :
    displayWidth text ≤ (String.ofList text).utf8ByteSize := by
  induction text with
  | nil => simp [displayWidth_nil]
  | cons char rest ih =>
      rw [List.mem_cons, not_or] at plain
      have bound := charWidth_le char
      have others := ih plain.2
      rw [displayWidth_cons (Ne.symm plain.1), String.ofList_cons,
        String.utf8ByteSize_append, String.utf8ByteSize_singleton]
      omega

end GodotSdk.Text
