import GodotSdk.Text.Width.Table

/-!
# Width of text

How many columns text takes on a terminal. Control sequences, which start with an escape
character, take none.
-/

namespace GodotSdk.Text

/-- The columns of one character. One Khmer sign is three columns wide. -/
def charWidth (char : Char) : Nat :=
  if char.toNat = 0x17D8 then 3
  else if zeroWidth.contains char then 0
  else if doubleWidth.contains char then 2
  else 1

/-- What follows the final character of a control sequence. -/
def afterFinal : List Char → List Char
  | [] => []
  | char :: rest => if '@' ≤ char && char ≤ '~' then rest else afterFinal rest

/-- What follows an operating system command, which ends with a bell or with an escape
and a backslash. -/
def afterCommand (previous : Char) : List Char → List Char
  | [] => []
  | char :: rest =>
      if char = '\x07' || (char = '\\' && previous = '\x1b') then rest
      else afterCommand char rest

/-- What follows an escape sequence, given the text after the escape character. -/
def afterEscape : List Char → List Char
  | [] => []
  | '[' :: rest => afterFinal rest
  | ']' :: rest => afterCommand ']' rest
  | _ :: rest => rest

theorem afterFinal_length_le (text : List Char) :
    (afterFinal text).length ≤ text.length := by
  induction text with
  | nil => simp [afterFinal]
  | cons char rest ih =>
      simp only [afterFinal]
      split <;> simp
      omega

theorem afterCommand_length_le (text : List Char) :
    ∀ previous, (afterCommand previous text).length ≤ text.length := by
  induction text with
  | nil => simp [afterCommand]
  | cons char rest ih =>
      intro previous
      have bound := ih char
      simp only [afterCommand]
      split <;> simp
      omega

theorem afterEscape_length_le (text : List Char) :
    (afterEscape text).length ≤ text.length := by
  unfold afterEscape
  split
  · simp
  · have bound := afterFinal_length_le ‹_›
    simp; omega
  · have bound := afterCommand_length_le ‹_› ']'
    simp; omega
  · simp

/-- A character, or an escape sequence, which stands for no character. -/
structure Glyph where
  chars : List Char
  shown : Option Char

/-- The characters and escape sequences of a text in order. -/
def glyphs (text : List Char) : List Glyph :=
  match text with
  | [] => []
  | char :: rest =>
      if char = '\x1b' then
        let after := afterEscape rest
        ⟨char :: rest.take (rest.length - after.length), none⟩ :: glyphs after
      else ⟨[char], some char⟩ :: glyphs rest
termination_by text.length
decreasing_by
  · have bound := afterEscape_length_le rest
    simp; omega
  · simp

/-- The columns of a glyph. -/
def Glyph.width (glyph : Glyph) : Nat :=
  (glyph.shown.map charWidth).getD 0

/-- The columns of a text. -/
def displayWidth (text : List Char) : Nat :=
  (glyphs text).foldl (fun width glyph => width + glyph.width) 0

end GodotSdk.Text
