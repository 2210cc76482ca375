import GodotSdk.Text.Blank
import GodotSdk.Text.LineBreak
import GodotSdk.Text.Width
import GodotSdk.Text.Word

/-!
# Wrapping

A paragraph is cut into pieces where lines may break, and lines are filled with as many
pieces as fit. Pieces that are too wide are cut further, so no line is wider than the
limit.
-/

namespace GodotSdk.Text

/-- A part of a line that is not broken: its text and the number of spaces after it. -/
structure Piece where
  text : List Char
  spaces : Nat

namespace Piece

def width (piece : Piece) : Nat :=
  displayWidth piece.text

/-- The piece with its spaces. -/
def chars (piece : Piece) : List Char :=
  piece.text ++ List.replicate piece.spaces ' '

/-- A piece from its characters, whose trailing spaces are set apart. -/
def ofChars (chars : List Char) : Piece :=
  let text := trimEndWhile (· == ' ') chars
  ⟨text, chars.length - text.length⟩

end Piece

/-- Cut a sequence of glyphs before the shown characters whose mark is set. Escape
sequences go with the character that follows them: `fresh` tells that none of them is
read yet. `reversed` holds the current part. -/
def cutGlyphs (fresh : Bool) (reversed : List Char) :
    List Bool → List Glyph → List (List Char)
  | _, [] => if reversed.isEmpty then [] else [reversed.reverse]
  | marks, glyph :: rest =>
      let cuts := fresh && marks.headD false
      let kept := if cuts then [] else reversed
      let reversed' := glyph.chars.reverse ++ kept
      let tail :=
        if glyph.shown.isSome then cutGlyphs true reversed' marks.tail rest
        else cutGlyphs false reversed' marks rest
      if cuts then reversed.reverse :: tail else tail

/-- Lines are not broken after hyphens here, which have a rule of their own, nor after
soft hyphens. -/
def keepsNext (char : Char) : Bool :=
  char == '-' || char == '\u00ad'

/-- Clear the last mark that is set, where `reversed` holds the marks from last to
first. -/
def clearFirst : List Bool → List Bool
  | [] => []
  | true :: rest => false :: rest
  | false :: rest => false :: clearFirst rest

/-- The marks of the places where words end. The end of the text always ends a word and
is not marked, but if the text ends in a hyphen the last mark is dropped in place of the
end. -/
def wordMarks (shown : List Char) : List Bool :=
  let marks := List.zipWith (fun breaks before => breaks && !keepsNext before)
    (lineBreaks shown) ('\x00' :: shown)
  if (shown.getLast?.map keepsNext).getD false then (clearFirst marks.reverse).reverse
    else marks

/-- The words of a line, each with the spaces after it. -/
def linePieces (line : List Char) : List Piece :=
  let shapes := glyphs line
  (cutGlyphs true [] (wordMarks (shapes.filterMap (·.shown))) shapes).map Piece.ofChars

/-- Cut a text after each hyphen that stands between letters or numbers, where
`reversed` holds the current part. -/
def cutHyphens (reversed : List Char) : List Char → List (List Char)
  | [] => [reversed.reverse]
  | char :: rest =>
      if char == '-' && (reversed.head?.map isAlphanumeric).getD false
          && (rest.head?.map isAlphanumeric).getD false then
        (char :: reversed).reverse :: cutHyphens [] rest
      else cutHyphens (char :: reversed) rest

/-- Give the spaces of a piece to the last of its parts. -/
def withSpaces (spaces : Nat) : List (List Char) → List Piece
  | [] => []
  | [part] => [⟨part, spaces⟩]
  | part :: rest => ⟨part, 0⟩ :: withSpaces spaces rest

/-- Cut a sequence of glyphs into parts of at most `limit` columns. `reversed` holds the
current part, which takes `width` columns. -/
def cutWide (limit width : Nat) (reversed : List Char) : List Glyph → List (List Char)
  | [] => if reversed.isEmpty then [] else [reversed.reverse]
  | glyph :: rest =>
      if glyph.shown.isSome && 0 < width && limit < width + glyph.width then
        reversed.reverse :: cutWide limit glyph.width glyph.chars.reverse rest
      else
        cutWide limit (width + glyph.width) (glyph.chars.reverse ++ reversed) rest

/-- The pieces of a line of which none is wider than `limit`. -/
def brokenPieces (limit : Nat) (line : List Char) : List Piece :=
  ((linePieces line).flatMap fun piece =>
    withSpaces piece.spaces (cutHyphens [] piece.text)).flatMap
    fun piece =>
      if limit < piece.width then
        withSpaces piece.spaces (cutWide limit 0 [] (glyphs piece.text))
      else [piece]

/-- Fill lines with pieces. `reversed` holds the current line, which takes `width`
columns together with the spaces at its end. -/
def fillLines (limit width : Nat) (reversed : List Piece) :
    List Piece → List (List Piece)
  | [] => [reversed.reverse]
  | piece :: rest =>
      if limit < width + piece.width && !reversed.isEmpty then
        reversed.reverse :: fillLines limit (piece.width + piece.spaces) [piece] rest
      else
        fillLines limit (width + piece.width + piece.spaces) (piece :: reversed) rest

/-- The text of a line, without the spaces after its last piece. -/
def joinPieces : List Piece → List Char
  | [] => []
  | [piece] => piece.text
  | piece :: rest => piece.chars ++ joinPieces rest

/-- Wrap a line at `limit` columns. A line of fewer bytes is kept as it is. -/
def wrap (limit : Nat) (line : List Char) : List (List Char) :=
  if (String.ofList line).utf8ByteSize < limit then [trimEndWhile (· == ' ') line]
  else (fillLines limit 0 [] (brokenPieces limit line)).map joinPieces

end GodotSdk.Text
