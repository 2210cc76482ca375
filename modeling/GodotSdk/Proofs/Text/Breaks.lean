import GodotSdk.Proofs.Text.Columns

/-!
# Breaks and pieces

A line is not broken between spaces. So a piece without text, of spaces only, comes only
after a piece without spaces, which ends in a character that always ends a line. Cutting
pieces further leaves it so.
-/

namespace GodotSdk.Text

/-! ## Breaks at spaces -/

/-- Marks of breaks that are never at the start of a text, where `previous` is the
character before it, and never between spaces. -/
def SpacesHold (previous : Option Char) (marks : List Bool) : List Char → Prop
  | [] => marks = []
  | char :: rest =>
      (marks.headD false = true → ∃ before ∈ previous, char = ' ' → before ≠ ' ')
        ∧ SpacesHold (some char) marks.tail rest

theorem lineClass_space : lineClass ' ' = .space := by decide

/-- Of the characters before a space only the ones that always end a line are followed
by a break. -/
theorem isHard_of_breaksBefore_space {state : BreakState}
    (breaks : state.breaksBefore .space = true) :
    state.before.isHard = true := by
  cases hard : state.before.isHard with
  | true => rfl
  | false =>
      have plain : (state.before == .carriageReturn) = false := by
        cases same : state.before <;> simp_all [LineClass.isHard]
      simp [BreakState.breaksBefore, hard, plain] at breaks

theorem step_space (state : BreakState) :
    state.step (lineClass ' ') = (state.breaksBefore .space, state.push .space) := by
  rw [lineClass_space]
  rfl

/-- After a space, the last character does not end a line. -/
theorem not_isHard_push_space (state : BreakState) :
    (state.push .space).before.isHard = false := by
  simp only [BreakState.push, beq_self_eq_true, if_true]
  split
  · rfl
  · next soft => simpa using soft

theorem run_cons (state : BreakState) (char : Char) (rest : List Char) :
    state.run (char :: rest) = (state.step (lineClass char)).1 ::
      (state.step (lineClass char)).2.run rest := rfl

theorem spacesHold_run {state : BreakState} {previous : Char} (shown : List Char)
    (held : previous = ' ' → state.before.isHard = false) :
    SpacesHold (some previous) (state.run shown) shown := by
  induction shown generalizing state previous with
  | nil => rfl
  | cons char rest ih =>
      rw [run_cons, SpacesHold, List.headD_cons, List.tail_cons]
      refine ⟨?_, ih ?_⟩
      · intro breaks
        refine ⟨previous, rfl, ?_⟩
        rintro rfl rfl
        have soft := held rfl
        rw [step_space] at breaks
        rw [isHard_of_breaksBefore_space breaks] at soft
        cases soft
      · rintro rfl
        rw [step_space]
        exact not_isHard_push_space state

theorem spacesHold_lineBreaks (shown : List Char) :
    SpacesHold none (lineBreaks shown) shown := by
  cases shown with
  | nil => rfl
  | cons char rest =>
      refine ⟨by simp [lineBreaks], spacesHold_run rest ?_⟩
      rintro rfl
      rw [lineClass_space]
      rfl

namespace SpacesHold

variable {previous : Option Char} {marks : List Bool} {shown : List Char}

/-- Nothing is marked before the first character. -/
theorem exists_before (holds : SpacesHold previous marks shown)
    (marked : marks.headD false = true) :
    ∃ before, before ∈ previous := by
  cases shown with
  | nil =>
      obtain rfl : marks = [] := holds
      cases marked
  | cons char rest =>
      obtain ⟨before, member, _⟩ := holds.1 marked
      exact ⟨before, member⟩

theorem zipWith (holds : SpacesHold previous marks shown) (keeps : Char → Bool)
    (befores : List Char) :
    SpacesHold previous (List.zipWith (fun breaks before => breaks && !keeps before)
      marks befores) shown := by
  induction shown generalizing previous marks befores with
  | nil =>
      obtain rfl : marks = [] := holds
      simp [SpacesHold]
  | cons char rest ih =>
      obtain ⟨first, others⟩ := holds
      rw [SpacesHold, List.tail_zipWith]
      refine ⟨?_, ih others befores.tail⟩
      cases marks <;> cases befores <;> simp_all

theorem cleared {fewer : List Bool} (holds : SpacesHold previous marks shown)
    (clears : List.Forall₂ (fun after before => after = true →
      before = true) fewer marks) :
    SpacesHold previous fewer shown := by
  induction shown generalizing previous marks fewer with
  | nil =>
      obtain rfl : marks = [] := holds
      exact List.forall₂_nil_right_iff.mp clears
  | cons char rest ih =>
      obtain ⟨first, others⟩ := holds
      cases clears with
      | nil => exact ⟨first, ih others .nil⟩
      | cons clear clears => exact ⟨first ∘ clear, ih others clears⟩

end SpacesHold

theorem clears_clearFirst (marks : List Bool) :
    List.Forall₂ (fun after before => after = true → before = true) (clearFirst marks)
      marks := by
  induction marks using clearFirst.induct with
  | case1 => exact .nil
  | case2 rest => exact .cons (by simp) (List.forall₂_same.mpr fun _ _ => id)
  | case3 rest ih => exact .cons id ih

theorem spacesHold_wordMarks (shown : List Char) :
    SpacesHold none (wordMarks shown) shown := by
  have holds := (spacesHold_lineBreaks shown).zipWith keepsNext ('\x00' :: shown)
  unfold wordMarks
  split
  · apply holds.cleared
    rw [← List.forall₂_reverse_iff, List.reverse_reverse]
    exact clears_clearFirst _
  · exact holds

/-! ## Flow of pieces -/

/-- Pieces of which an empty one comes only after a piece without spaces. There are
`spaces` before the first. -/
def Flows (spaces : Nat) : List Piece → Prop
  | [] => True
  | piece :: rest => (piece.text = [] → spaces = 0) ∧ Flows piece.spaces rest

theorem trimEndWhile_ne_nil {drop : Char → Bool} {text : List Char} {first : Char}
    (opens : text.head? = some first)
    (kept : drop first = false) : trimEndWhile drop text ≠ [] := by
  intro empty
  obtain ⟨dropped, joined, dropping⟩ := trimEndWhile_append drop text
  rw [empty, List.nil_append] at joined
  have among : first ∈ dropped := by
    rw [joined]
    exact List.mem_of_mem_head? opens
  rw [dropping first among] at kept
  cases kept

theorem spaces_ofChars {chars : List Char} {last : Char}
    (ends : chars.getLast? = some last) (visible : last ≠ ' ') :
    (Piece.ofChars chars).spaces = 0 := by
  have head : chars.reverse.head? = some last := by rw [List.head?_reverse, ends]
  obtain ⟨rest, reversed⟩ := List.head?_eq_some_iff.mp head
  have whole : chars = (last :: rest).reverse := by
    rw [← reversed, List.reverse_reverse]
  simp [Piece.ofChars, trimEndWhile, visible, whole]

theorem spaces_eq_zero_of_text {spaces : Nat} {chars : List Char}
    (opens : ∃ first, chars.head? = some first ∧ (first = ' ' → spaces = 0))
    (nothing : (Piece.ofChars chars).text = []) : spaces = 0 := by
  obtain ⟨first, head, blank⟩ := opens
  by_contra spaced
  exact trimEndWhile_ne_nil head (by simpa using mt blank spaced) nothing

/-- Words flow: one that is all spaces comes after a character that always ends a
line. -/
theorem flows_cutGlyphs {spaces : Nat} {fresh : Bool} {reversed : List Char}
    {marks : List Bool} {shapes : List Glyph} {previous : Option Char}
    (readable : Readable shapes)
    (holds : SpacesHold previous marks (shapes.filterMap (·.shown)))
    (reached : fresh = true → reversed.head? = previous)
    (opens : ∃ first, (reversed.reverse ++ shapes.flatMap Glyph.chars).head? =
      some first ∧ (first = ' ' → spaces = 0)) :
    Flows spaces ((cutGlyphs fresh reversed marks shapes).map Piece.ofChars) := by
  induction shapes generalizing spaces fresh reversed marks previous with
  | nil =>
      rw [List.flatMap_nil, List.append_nil] at opens
      have filled : reversed ≠ [] := by
        rintro rfl
        simp at opens
      simp only [cutGlyphs, List.isEmpty_iff, filled, if_false, List.map_cons,
        List.map_nil]
      exact ⟨spaces_eq_zero_of_text opens, trivial⟩
  | cons glyph rest ih =>
      obtain ⟨others, shape⟩ := readable_cons_iff.mp readable
      cases cuts : fresh && marks.headD false with
      | true =>
          obtain ⟨ready, mark⟩ := Bool.and_eq_true_iff.mp cuts
          obtain ⟨before, member⟩ := holds.exists_before mark
          have last : reversed.head? = some before := (reached ready).trans member
          have ends : reversed.reverse.getLast? = some before := by
            rw [List.getLast?_reverse, last]
          have filled : reversed.reverse ≠ [] := by
            intro empty
            simp [empty] at ends
          have word : (Piece.ofChars reversed.reverse).text = [] → spaces = 0 := by
            obtain ⟨first, head, blank⟩ := opens
            rw [List.head?_append_of_ne_nil _ filled] at head
            exact spaces_eq_zero_of_text ⟨first, head, blank⟩
          rcases shape with ⟨char, plain, rfl⟩ | ⟨taken, rfl, _⟩
          · obtain ⟨other, same, apart⟩ := holds.1 mark
            obtain rfl : before = other := Option.mem_unique member same
            simp only [cutGlyphs, cuts, if_true, Option.isSome_some, List.map_cons]
            exact ⟨word, ih others holds.2 (fun _ => rfl) ⟨char, rfl,
              fun space => spaces_ofChars ends (apart space)⟩⟩
          · simp only [cutGlyphs, cuts, if_true, Option.isSome_none, Bool.false_eq_true,
              if_false, List.map_cons]
            exact ⟨word, ih others holds (fun never => absurd never Bool.false_ne_true)
              ⟨'\x1b', by simp, fun space => absurd space (by decide)⟩⟩
      | false =>
          have same : (glyph.chars.reverse ++ reversed).reverse ++
              rest.flatMap Glyph.chars =
              reversed.reverse ++ (glyph :: rest).flatMap Glyph.chars := by simp
          rw [← same] at opens
          rcases shape with ⟨char, plain, rfl⟩ | ⟨taken, rfl, _⟩
          · simp only [cutGlyphs, cuts, Bool.false_eq_true, if_false,
              Option.isSome_some, if_true]
            exact ih others holds.2 (fun _ => rfl) opens
          · simp only [cutGlyphs, cuts, Bool.false_eq_true, if_false,
              Option.isSome_none]
            exact ih others holds (fun never => absurd never Bool.false_ne_true) opens

theorem flows_linePieces {line : List Char} {first : Char}
    (opens : line.head? = some first) (visible : first ≠ ' ')
    (spaces : Nat) : Flows spaces (linePieces line) := by
  refine flows_cutGlyphs (readable_glyphs line) (spacesHold_wordMarks _) (fun _ => rfl)
    ⟨first, ?_, ?_⟩
  · simpa using opens
  · exact fun space => absurd space visible

/-- The first part is what was there, and more. -/
theorem exists_first_cutHyphens (reversed text : List Char) :
    ∃ first others, cutHyphens reversed text = first :: others ∧
      reversed.reverse <+: first := by
  induction text generalizing reversed with
  | nil => exact ⟨_, _, rfl, List.prefix_refl _⟩
  | cons char rest ih =>
      unfold cutHyphens
      split
      · exact ⟨_, _, rfl, by simp⟩
      · obtain ⟨first, others, cut, continued⟩ := ih (char :: reversed)
        rw [List.reverse_cons] at continued
        exact ⟨first, others, cut, (List.prefix_append _ _).trans continued⟩

theorem exists_first_cutWide {reversed : List Char} (filled : reversed ≠ [])
    (limit width : Nat) (shapes : List Glyph) :
    ∃ first others, cutWide limit width reversed shapes = first :: others ∧
      reversed.reverse <+: first := by
  induction shapes generalizing width reversed with
  | nil => exact ⟨_, [], by simp [cutWide, filled], List.prefix_refl _⟩
  | cons glyph rest ih =>
      unfold cutWide
      split
      · exact ⟨_, _, rfl, List.prefix_refl _⟩
      · have more : glyph.chars.reverse ++ reversed ≠ [] := by simp [filled]
        obtain ⟨first, others, cut, continued⟩ := ih more (width + glyph.width)
        rw [List.reverse_append] at continued
        exact ⟨first, others, cut, (List.prefix_append _ _).trans continued⟩

theorem flows_withSpaces_append {before spaces : Nat} {first : List Char}
    {others : List (List Char)} {rest : List Piece} (opens : first = [] → before = 0)
    (flows : Flows spaces rest) :
    Flows before (withSpaces spaces (first :: others) ++ rest) := by
  induction others generalizing before first with
  | nil => exact ⟨opens, flows⟩
  | cons next others ih => exact ⟨opens, ih fun _ => rfl⟩

/-- Pieces still flow when each is cut into parts, of which the first is not empty
unless the piece is. -/
theorem Flows.flatMap_withSpaces {parts : Piece → List (List Char)} {spaces : Nat}
    {pieces : List Piece} (flows : Flows spaces pieces)
    (begins : ∀ piece, ∃ first others, parts piece = first :: others ∧
      (first = [] → piece.text = [])) :
    Flows spaces (pieces.flatMap fun piece => withSpaces piece.spaces (parts piece)) :=
  by
  induction pieces generalizing spaces with
  | nil => trivial
  | cons piece rest ih =>
      obtain ⟨first, others, cut, empty⟩ := begins piece
      rw [List.flatMap_cons, cut]
      exact flows_withSpaces_append (flows.1 ∘ empty) (ih flows.2)

theorem opens_cutHyphens (text : List Char) :
    ∃ first others, cutHyphens [] text = first :: others ∧
      (first = [] → text = []) := by
  cases text with
  | nil => exact ⟨[], [], rfl, fun _ => rfl⟩
  | cons char rest =>
      obtain ⟨first, others, cut, continued⟩ := exists_first_cutHyphens [char] rest
      refine ⟨first, others, ?_, ?_⟩
      · simpa [cutHyphens] using cut
      · rintro rfl
        simp at continued

theorem opens_cutWide {limit : Nat} {text : List Char}
    (wide : limit < displayWidth text) :
    ∃ first others, cutWide limit 0 [] (glyphs text) = first :: others ∧
      (first = [] → text = []) := by
  cases shapes : glyphs text with
  | nil => simp [displayWidth_eq, shapes, columns] at wide
  | cons glyph rest =>
      have readable := readable_glyphs text
      rw [shapes, readable_cons_iff] at readable
      have filled : glyph.chars ≠ [] := by
        rcases readable.2 with ⟨char, _, rfl⟩ | ⟨taken, rfl, _⟩ <;> simp
      obtain ⟨first, others, cut, continued⟩ :=
        exists_first_cutWide (List.reverse_ne_nil_iff.mpr filled) limit glyph.width rest
      refine ⟨first, others, ?_, ?_⟩
      · simpa [cutWide] using cut
      · rintro rfl
        simp [filled] at continued

/-- The pieces of a line that does not begin with a space flow, whatever is before
them. -/
theorem flows_brokenPieces {line : List Char} {first : Char}
    (opens : line.head? = some first) (visible : first ≠ ' ')
    (limit spaces : Nat) : Flows spaces (brokenPieces limit line) := by
  have narrowed (piece : Piece) :
      (if limit < piece.width then
        withSpaces piece.spaces (cutWide limit 0 [] (glyphs piece.text)) else [piece]) =
        withSpaces piece.spaces
          (if limit < piece.width then cutWide limit 0 [] (glyphs piece.text)
            else [piece.text]) := by
    split <;> rfl
  simp only [brokenPieces, narrowed]
  refine ((flows_linePieces opens visible spaces).flatMap_withSpaces
    ?_).flatMap_withSpaces ?_
  · exact fun piece => opens_cutHyphens piece.text
  · intro piece
    split
    · next wide => exact opens_cutWide wide
    · exact ⟨_, _, rfl, id⟩

theorem brokenPieces_ne_nil {line : List Char} {first : Char}
    (opens : line.head? = some first) (visible : first ≠ ' ')
    (limit : Nat) : brokenPieces limit line ≠ [] := by
  intro empty
  have kept : first ∈ withoutSpaces line :=
    (mem_withoutSpaces visible).mpr (List.mem_of_mem_head? opens)
  rw [← withoutSpaces_linePieces, ← flatMap_brokenPieces limit, empty] at kept
  exact List.not_mem_nil kept

end GodotSdk.Text
