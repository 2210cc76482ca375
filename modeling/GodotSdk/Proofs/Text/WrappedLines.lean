import GodotSdk.Proofs.Text.Breaks

/-!
# Wrapped lines

No wrapped line is empty: a piece without text fits on the line of the piece before it.
Without control sequences, no wrapped line takes more columns than the limit.
-/

namespace GodotSdk.Text

/-! ## Narrow pieces -/

/-- Parts are as wide as the glyphs in them, so none is wider than the limit. -/
theorem displayWidth_le_of_mem_cutWide {limit width : Nat} {reversed : List Char}
    {held shapes : List Glyph} (roomy : 3 ≤ limit)
    (spelled : reversed.reverse = held.flatMap Glyph.chars)
    (counted : width = columns held) (readable : Readable (held ++ shapes))
    (narrow : width ≤ limit) :
    ∀ part ∈ cutWide limit width reversed shapes, displayWidth part ≤ limit := by
  induction shapes generalizing width reversed held with
  | nil =>
      rw [List.append_nil] at readable
      unfold cutWide
      split
      · simp
      · rw [List.forall_mem_singleton, spelled, displayWidth_of_readable readable,
          ← counted]
        exact narrow
  | cons glyph rest ih =>
      have bound := width_le glyph
      unfold cutWide
      split
      · obtain ⟨before, after⟩ := readable_append readable
        rw [List.forall_mem_cons]
        constructor
        · rw [spelled, displayWidth_of_readable before, ← counted]
          exact narrow
        · have single : glyph.chars.reverse.reverse = [glyph].flatMap Glyph.chars := by
            simp
          exact ih single (by simp [columns]) after (by omega)
      · next fits =>
          have hidden : glyph.shown = none → glyph.width = 0 :=
            fun nothing => by simp [Glyph.width, nothing]
          have longer : (glyph.chars.reverse ++ reversed).reverse =
              (held ++ [glyph]).flatMap Glyph.chars := by
            simp [spelled]
          refine ih longer (by simp [columns, counted]) (by simpa using readable) ?_
          cases shown : glyph.shown with
          | none => rw [hidden shown]; exact narrow
          | some char =>
              simp only [shown, Option.isSome_some, Bool.true_and, Bool.and_eq_true,
                decide_eq_true_eq, not_and] at fits
              omega

theorem text_mem_of_mem_withSpaces {spaces : Nat} {parts : List (List Char)}
    {piece : Piece} (among : piece ∈ withSpaces spaces parts) : piece.text ∈ parts := by
  induction parts with
  | nil => exact absurd among List.not_mem_nil
  | cons part rest ih =>
      cases rest with
      | nil =>
          obtain rfl := List.mem_singleton.mp among
          exact List.mem_singleton_self part
      | cons next others =>
          rcases List.mem_cons.mp among with rfl | later
          · exact List.mem_cons_self
          · exact List.mem_cons_of_mem _ (ih later)

theorem width_le_of_mem_brokenPieces {limit : Nat} (roomy : 3 ≤ limit)
    {line : List Char} {piece : Piece}
    (among : piece ∈ brokenPieces limit line) : piece.width ≤ limit := by
  obtain ⟨whole, _, within⟩ := List.mem_flatMap.mp among
  split at within
  · have readable : Readable ([] ++ glyphs whole.text) := readable_glyphs whole.text
    exact displayWidth_le_of_mem_cutWide roomy rfl rfl readable (Nat.zero_le limit)
      piece.text (text_mem_of_mem_withSpaces within)
  · next fits =>
      obtain rfl := List.mem_singleton.mp within
      exact Nat.le_of_not_lt fits

/-! ## Filled lines -/

/-- The columns of pieces with all their spaces. -/
def extent (pieces : List Piece) : Nat :=
  (pieces.map fun piece => piece.width + piece.spaces).sum

/-- A line that begins with something visible and, but for the spaces at its end, keeps
within the limit. -/
structure Settled (limit : Nat) (line : List Piece) : Prop where
  opens : ∃ first ∈ line.head?, first.text ≠ []
  fits : ∃ last ∈ line.getLast?, extent line ≤ limit + last.spaces

theorem settled_fillLines {limit width : Nat} {reversed pieces : List Piece}
    {last : Piece} (ends : reversed.head? = some last)
    (counted : width = extent reversed.reverse)
    (settled : Settled limit reversed.reverse) (flows : Flows last.spaces pieces)
    (narrow : ∀ piece ∈ pieces, piece.width ≤ limit) :
    ∀ line ∈ fillLines limit width reversed pieces, Settled limit line := by
  induction pieces generalizing width reversed last with
  | nil => simpa [fillLines] using settled
  | cons piece rest ih =>
      obtain ⟨within, others⟩ := List.forall_mem_cons.mp narrow
      obtain ⟨first, head, visible⟩ := settled.opens
      obtain ⟨final, tail, fits⟩ := settled.fits
      rw [List.getLast?_reverse, ends, Option.mem_some_iff] at tail
      subst tail
      have filled : reversed ≠ [] := by
        rintro rfl
        cases ends
      unfold fillLines
      split
      · next wide =>
          rw [List.forall_mem_cons]
          refine ⟨settled,
            ih rfl (by simp [extent]) ⟨⟨piece, rfl, ?_⟩, piece, rfl, ?_⟩ flows.2 others⟩
          · intro empty
            have spaced := flows.1 empty
            have flat : piece.width = 0 := by
              simp [Piece.width, empty, displayWidth, glyphs]
            simp only [Bool.and_eq_true, decide_eq_true_eq] at wide
            omega
          · simpa [extent] using within
      · next slim =>
          simp only [Bool.and_eq_true, decide_eq_true_eq, Bool.not_eq_true',
            List.isEmpty_eq_false_iff, filled, ne_eq, not_false_eq_true, and_true,
            Nat.not_lt] at slim
          refine ih rfl ?_ ⟨⟨first, ?_, visible⟩, piece, by simp, ?_⟩ flows.2 others
          · simp [extent, counted, Nat.add_assoc]
          · rw [List.reverse_cons,
              List.head?_append_of_ne_nil _ (List.reverse_ne_nil_iff.mpr filled)]
            exact head
          · simp only [List.reverse_cons, extent, List.map_append, List.sum_append]
              at counted ⊢
            simp only [List.map_cons, List.map_nil, List.sum_singleton]
            omega

theorem settled_of_mem_filled {limit : Nat} (roomy : 3 ≤ limit) {line : List Char}
    {first : Char} (opens : line.head? = some first) (visible : first ≠ ' ')
    {filled : List Piece}
    (among : filled ∈ fillLines limit 0 [] (brokenPieces limit line)) :
    Settled limit filled := by
  have flows := flows_brokenPieces opens visible limit 1
  have narrow : ∀ piece ∈ brokenPieces limit line, piece.width ≤ limit := fun piece =>
    width_le_of_mem_brokenPieces roomy
  cases pieces : brokenPieces limit line with
  | nil => exact absurd pieces (brokenPieces_ne_nil opens visible limit)
  | cons piece rest =>
      rw [pieces] at among flows narrow
      obtain ⟨within, others⟩ := List.forall_mem_cons.mp narrow
      have start : fillLines limit 0 [] (piece :: rest) =
          fillLines limit (piece.width + piece.spaces) [piece] rest := by
        simp [fillLines]
      have begun : piece.text ≠ [] := fun empty => absurd (flows.1 empty) (by decide)
      rw [start] at among
      refine settled_fillLines rfl (by simp [extent]) ⟨⟨piece, rfl, begun⟩, piece, rfl,
        ?_⟩ flows.2 others filled among
      simpa [extent] using within

/-- The text of a line with the spaces at its end. -/
theorem flatMap_chars {line : List Piece} {last : Piece}
    (ends : line.getLast? = some last) :
    line.flatMap Piece.chars = joinPieces line ++ List.replicate last.spaces ' ' := by
  induction line with
  | nil => cases ends
  | cons piece rest ih =>
      cases rest with
      | nil =>
          obtain rfl : piece = last := by simpa using ends
          simp [joinPieces, Piece.chars]
      | cons next others =>
          rw [List.getLast?_cons_cons] at ends
          have joined : joinPieces (piece :: next :: others) =
              piece.chars ++ joinPieces (next :: others) := rfl
          rw [List.flatMap_cons, ih ends, joined, List.append_assoc]

/-- The text of a settled line is not empty. -/
theorem Settled.joinPieces_ne_nil {limit : Nat} {line : List Piece}
    (settled : Settled limit line) :
    joinPieces line ≠ [] := by
  obtain ⟨first, head, visible⟩ := settled.opens
  obtain ⟨rest, rfl⟩ := List.head?_eq_some_iff.mp head
  cases rest <;> simp [joinPieces, Piece.chars, visible]

/-- No wrapped line is empty. -/
theorem ne_nil_of_mem_wrap {limit : Nat} (roomy : 3 ≤ limit) {line wrapped : List Char}
    {first : Char} (opens : line.head? = some first) (visible : first ≠ ' ')
    (among : wrapped ∈ wrap limit line) : wrapped ≠ [] := by
  unfold wrap at among
  split at among
  · rw [List.mem_singleton.mp among]
    exact trimEndWhile_ne_nil opens (by simpa using visible)
  · obtain ⟨filled, within, rfl⟩ := List.mem_map.mp among
    exact (settled_of_mem_filled roomy opens visible within).joinPieces_ne_nil

/-! ## Lines without control sequences -/

theorem displayWidth_flatMap_chars {line : List Piece}
    (plain : ∀ piece ∈ line, '\x1b' ∉ piece.text) :
    displayWidth (line.flatMap Piece.chars) = extent line := by
  induction line with
  | nil => exact displayWidth_nil
  | cons piece rest ih =>
      obtain ⟨first, others⟩ := List.forall_mem_cons.mp plain
      have whole : '\x1b' ∉ piece.chars := by simp [Piece.chars, first]
      rw [List.flatMap_cons, displayWidth_append whole, ih others, Piece.chars,
        displayWidth_append first, displayWidth_replicate]
      rfl

theorem Settled.displayWidth_le {limit : Nat} {line : List Piece}
    (settled : Settled limit line) (plain : ∀ piece ∈ line, '\x1b' ∉ piece.text) :
    displayWidth (joinPieces line) ≤ limit := by
  obtain ⟨last, ends, fits⟩ := settled.fits
  have counted := displayWidth_flatMap_chars plain
  have joined : '\x1b' ∉ joinPieces line := by
    rw [← mem_withoutSpaces (by decide), withoutSpaces_joinPieces,
      mem_withoutSpaces (by decide)]
    simpa using plain
  rw [flatMap_chars ends, displayWidth_append joined, displayWidth_replicate] at counted
  omega

/-- Without control sequences, no wrapped line is wider than the limit. -/
theorem displayWidth_le_of_mem_wrap {limit : Nat} (roomy : 3 ≤ limit)
    {line wrapped : List Char} {first : Char} (opens : line.head? = some first)
    (visible : first ≠ ' ') (plain : '\x1b' ∉ line)
    (among : wrapped ∈ wrap limit line) : displayWidth wrapped ≤ limit := by
  unfold wrap at among
  split at among
  · next short =>
      rw [List.mem_singleton.mp among]
      obtain ⟨dropped, joined, _⟩ := trimEndWhile_append (· == ' ') line
      have kept : '\x1b' ∉ trimEndWhile (· == ' ') line := fun member =>
        plain ((trimEndWhile_sublist _ line).subset member)
      have bytes := displayWidth_le_bytes plain
      have parts := displayWidth_append kept dropped
      rw [joined] at parts
      omega
  · obtain ⟨filled, within, rfl⟩ := List.mem_map.mp among
    refine (settled_of_mem_filled roomy opens visible within).displayWidth_le ?_
    intro piece member escape
    have broken : piece ∈ brokenPieces limit line := by
      have pieces := flatten_fillLines limit 0 [] (brokenPieces limit line)
      rw [List.reverse_nil, List.nil_append] at pieces
      rw [← pieces]
      exact List.mem_flatten_of_mem within member
    have shown : '\x1b' ∈ (brokenPieces limit line).flatMap Piece.text :=
      List.mem_flatMap.mpr ⟨piece, broken, escape⟩
    rw [flatMap_brokenPieces, ← mem_withoutSpaces (by decide), withoutSpaces_linePieces,
      mem_withoutSpaces (by decide)] at shown
    exact plain shown

end GodotSdk.Text
