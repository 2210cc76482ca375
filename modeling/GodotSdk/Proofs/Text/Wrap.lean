import GodotSdk.Text.Wrap
import Mathlib.Data.List.TakeWhile

/-!
# What wrapping keeps

A text is cut at its line feeds, and each line is trimmed and wrapped. Wrapping cuts a
line into pieces several times over and puts them together again. No cut loses a
character, and lines lose nothing but the spaces where they are broken.
-/

namespace GodotSdk.Text

/-- The characters of a text other than spaces. -/
def withoutSpaces (text : List Char) : List Char :=
  text.filter (· != ' ')

@[simp] theorem withoutSpaces_append (left right : List Char) :
    withoutSpaces (left ++ right) = withoutSpaces left ++ withoutSpaces right :=
  List.filter_append ..

@[simp] theorem withoutSpaces_replicate (count : Nat) :
    withoutSpaces (List.replicate count ' ') = [] := by
  simp [withoutSpaces]

theorem mem_withoutSpaces {char : Char} {text : List Char} (visible : char ≠ ' ') :
    char ∈ withoutSpaces text ↔ char ∈ text := by
  simp [withoutSpaces, visible]

theorem trimEndWhile_append (drop : Char → Bool) (text : List Char) :
    ∃ dropped, trimEndWhile drop text ++ dropped = text ∧ ∀ char ∈ dropped,
      drop char = true := by
  refine ⟨(text.reverse.takeWhile drop).reverse, ?_, ?_⟩
  · rw [trimEndWhile, ← List.reverse_append, List.takeWhile_append_dropWhile,
      List.reverse_reverse]
  · intro char member
    exact List.mem_takeWhile_imp (List.mem_reverse.mp member)

theorem trimEndWhile_sublist (drop : Char → Bool) (text : List Char) :
    (trimEndWhile drop text).Sublist text := by
  obtain ⟨dropped, joined, _⟩ := trimEndWhile_append drop text
  have kept := List.sublist_append_left (trimEndWhile drop text) dropped
  rwa [joined] at kept

@[simp] theorem withoutSpaces_trimEnd (text : List Char) :
    withoutSpaces (trimEndWhile (· == ' ') text) = withoutSpaces text := by
  obtain ⟨dropped, joined, spaces⟩ := trimEndWhile_append (· == ' ') text
  have nothing : withoutSpaces dropped = [] := by
    simpa [withoutSpaces, List.filter_eq_nil_iff] using spaces
  have whole := withoutSpaces_append (trimEndWhile (· == ' ') text) dropped
  rw [joined, nothing, List.append_nil] at whole
  exact whole.symm

theorem trim_sublist (text : List Char) : (trim text).Sublist text :=
  (trimEndWhile_sublist isBlank (trimStart text)).trans (List.dropWhile_sublist isBlank)

/-! ## Cutting at line feeds -/

theorem mem_of_mem_closeLine {reversed : List Char} {char : Char}
    (member : char ∈ closeLine reversed) :
    char ∈ reversed := by
  unfold closeLine at member
  split at member
  · exact List.mem_cons_of_mem _ (List.mem_reverse.mp member)
  · exact List.mem_reverse.mp member

theorem feedless_linesFrom {reversed text : List Char} (feedless : '\n' ∉ reversed) :
    ∀ line ∈ linesFrom reversed text, '\n' ∉ line := by
  induction reversed, text using linesFrom.induct with
  | case1 reversed empty => simp [linesFrom, empty]
  | case2 reversed pending => simpa [linesFrom, pending] using feedless
  | case3 reversed rest ih =>
      rw [linesFrom, List.forall_mem_cons]
      exact ⟨mt mem_of_mem_closeLine feedless, ih List.not_mem_nil⟩
  | case4 reversed char rest different ih =>
      rw [linesFrom]
      · exact ih (by simp_all [eq_comm])
      · exact different

theorem feedless_of_mem_lines {text line : List Char} (among : line ∈ lines text) :
    '\n' ∉ line :=
  feedless_linesFrom List.not_mem_nil line among

/-! ## Cutting lines -/

theorem afterFinal_suffix (text : List Char) : afterFinal text <:+ text := by
  induction text with
  | nil => exact List.suffix_refl _
  | cons char rest ih =>
      unfold afterFinal
      split
      · exact List.suffix_cons char rest
      · exact ih.trans (List.suffix_cons char rest)

theorem afterCommand_suffix (previous : Char) (text : List Char) :
    afterCommand previous text <:+ text := by
  induction text generalizing previous with
  | nil => exact List.suffix_refl _
  | cons char rest ih =>
      unfold afterCommand
      split
      · exact List.suffix_cons char rest
      · exact (ih char).trans (List.suffix_cons char rest)

theorem afterEscape_suffix (text : List Char) : afterEscape text <:+ text := by
  unfold afterEscape
  split
  · exact List.suffix_refl _
  · exact (afterFinal_suffix _).trans (List.suffix_cons ..)
  · exact (afterCommand_suffix ..).trans (List.suffix_cons ..)
  · exact List.suffix_cons ..

theorem take_append_of_suffix {after text : List Char} (suffix : after <:+ text) :
    text.take (text.length - after.length) ++ after = text := by
  obtain ⟨before, rfl⟩ := suffix
  simp

@[simp] theorem flatMap_glyphs (text : List Char) :
    (glyphs text).flatMap Glyph.chars = text := by
  induction text using glyphs.induct with
  | case1 => simp [glyphs]
  | case2 rest after ih =>
      rw [glyphs, if_pos rfl, List.flatMap_cons, ih, List.cons_append]
      exact congrArg _ (take_append_of_suffix (afterEscape_suffix rest))
  | case3 char rest plain ih =>
      rw [glyphs, if_neg plain, List.flatMap_cons, ih, List.singleton_append]

theorem flatten_cutGlyphs (fresh : Bool) (reversed : List Char) (marks : List Bool)
    (shapes : List Glyph) :
    (cutGlyphs fresh reversed marks shapes).flatten = reversed.reverse ++
      shapes.flatMap Glyph.chars := by
  induction shapes generalizing fresh reversed marks with
  | nil => cases reversed <;> simp [cutGlyphs]
  | cons glyph rest ih =>
      simp only [cutGlyphs]
      cases fresh && marks.headD false <;> cases glyph.shown.isSome <;> simp [ih]

theorem flatten_cutHyphens (reversed text : List Char) :
    (cutHyphens reversed text).flatten = reversed.reverse ++ text := by
  induction text generalizing reversed with
  | nil => simp [cutHyphens]
  | cons char rest ih =>
      unfold cutHyphens
      split <;> simp [ih]

theorem flatten_cutWide (limit width : Nat) (reversed : List Char)
    (shapes : List Glyph) :
    (cutWide limit width reversed shapes).flatten = reversed.reverse ++
      shapes.flatMap Glyph.chars := by
  induction shapes generalizing width reversed with
  | nil => cases reversed <;> simp [cutWide]
  | cons glyph rest ih =>
      unfold cutWide
      split <;> simp [ih]

theorem flatMap_withSpaces (spaces : Nat) (parts : List (List Char)) :
    (withSpaces spaces parts).flatMap Piece.text = parts.flatten := by
  induction parts with
  | nil => rfl
  | cons part rest ih =>
      cases rest with
      | nil => simp [withSpaces]
      | cons next others => simp [withSpaces, ih]

/-! ## Pieces -/

@[simp] theorem withoutSpaces_chars (piece : Piece) :
    withoutSpaces piece.chars = withoutSpaces piece.text := by
  simp [Piece.chars]

@[simp] theorem withoutSpaces_ofChars (chars : List Char) :
    withoutSpaces (Piece.ofChars chars).text = withoutSpaces chars :=
  withoutSpaces_trimEnd chars

/-- What holds of the parts of a text, one by one, holds of the text. -/
theorem withoutSpaces_flatMap {α : Type} {before after : α → List Char} {parts : List α}
    (keeps : ∀ part ∈ parts, withoutSpaces (after part) = withoutSpaces (before part)) :
    withoutSpaces (parts.flatMap after) = withoutSpaces (parts.flatMap before) := by
  induction parts with
  | nil => rfl
  | cons part rest ih =>
      rw [List.forall_mem_cons] at keeps
      simp only [List.flatMap_cons, withoutSpaces_append, keeps.1, ih keeps.2]

theorem withoutSpaces_linePieces (line : List Char) :
    withoutSpaces ((linePieces line).flatMap Piece.text) = withoutSpaces line := by
  let words :=
    cutGlyphs true [] (wordMarks ((glyphs line).filterMap (·.shown))) (glyphs line)
  calc withoutSpaces ((linePieces line).flatMap Piece.text)
      = withoutSpaces (words.flatMap fun word => (Piece.ofChars word).text) := by
        rw [linePieces, List.flatMap_map]
    _ = withoutSpaces (words.flatMap fun word => word) :=
        withoutSpaces_flatMap fun word _ => withoutSpaces_ofChars word
    _ = withoutSpaces line := by simp [words, flatten_cutGlyphs]

/-- Breaking pieces further changes nothing about their text. -/
theorem flatMap_brokenPieces (limit : Nat) (line : List Char) :
    (brokenPieces limit line).flatMap Piece.text =
      (linePieces line).flatMap Piece.text := by
  have parted (piece : Piece) :
      (withSpaces piece.spaces (cutHyphens [] piece.text)).flatMap Piece.text =
        piece.text := by
    simp [flatMap_withSpaces, flatten_cutHyphens]
  have narrowed (piece : Piece) :
      (if limit < piece.width then
        withSpaces piece.spaces (cutWide limit 0 [] (glyphs piece.text))
        else [piece]).flatMap Piece.text = piece.text := by
    split
    · simp [flatMap_withSpaces, flatten_cutWide]
    · simp
  simp only [brokenPieces, List.flatMap_assoc, narrowed, parted]

/-! ## Lines -/

theorem flatten_fillLines (limit width : Nat) (reversed pieces : List Piece) :
    (fillLines limit width reversed pieces).flatten = reversed.reverse ++ pieces := by
  induction pieces generalizing width reversed with
  | nil => simp [fillLines]
  | cons piece rest ih =>
      unfold fillLines
      split <;> simp [ih]

theorem withoutSpaces_joinPieces (pieces : List Piece) :
    withoutSpaces (joinPieces pieces) = withoutSpaces (pieces.flatMap Piece.text) := by
  induction pieces with
  | nil => rfl
  | cons piece rest ih =>
      cases rest with
      | nil => simp [joinPieces]
      | cons next others => simp [joinPieces, ih]

/-- Wrapping keeps all characters other than spaces, in order. -/
theorem withoutSpaces_wrap (limit : Nat) (line : List Char) :
    withoutSpaces (wrap limit line).flatten = withoutSpaces line := by
  unfold wrap
  split
  · simp
  · let filled := fillLines limit 0 [] (brokenPieces limit line)
    calc withoutSpaces (filled.map joinPieces).flatten
        = withoutSpaces (filled.flatMap fun pieces => pieces.flatMap Piece.text) := by
          rw [← List.flatMap_def]
          exact withoutSpaces_flatMap fun pieces _ => withoutSpaces_joinPieces pieces
      _ = withoutSpaces (filled.flatten.flatMap Piece.text) := by
          rw [List.flatMap_def, List.flatMap_def, List.map_flatten,
            List.flatten_flatten, List.map_map]
          rfl
      _ = withoutSpaces ((linePieces line).flatMap Piece.text) := by
          rw [flatten_fillLines, List.reverse_nil, List.nil_append,
            flatMap_brokenPieces]
      _ = withoutSpaces line := withoutSpaces_linePieces line

/-- Every character of a wrapped line, spaces apart, was there before. -/
theorem mem_of_mem_wrap {limit : Nat} {line wrapped : List Char}
    (among : wrapped ∈ wrap limit line) {char : Char}
    (visible : char ≠ ' ') (member : char ∈ wrapped) : char ∈ line := by
  rw [← mem_withoutSpaces visible, ← withoutSpaces_wrap limit line,
    mem_withoutSpaces visible]
  exact List.mem_flatten_of_mem among member

end GodotSdk.Text
