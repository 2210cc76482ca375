import GodotSdk.Text.RangeTable

/-!
# Blank characters and lines

Which characters count as white space, how text is trimmed of it, and how text falls
into lines.
-/

namespace GodotSdk.Text

/-- Characters with the property `White_Space`. -/
def blanks : RangeTable := ⟨[
    (0x9, 0xD), (0x20, 0x20), (0x85, 0x85), (0xA0, 0xA0), (0x1680, 0x1680),
    (0x2000, 0x200A), (0x2028, 0x2029), (0x202F, 0x202F), (0x205F, 0x205F),
    (0x3000, 0x3000)]⟩

def isBlank (char : Char) : Bool :=
  blanks.contains char

/-- The text without its leading blanks. -/
def trimStart (text : List Char) : List Char :=
  text.dropWhile isBlank

/-- The text without its trailing characters that satisfy `drop`. -/
def trimEndWhile (drop : Char → Bool) (text : List Char) : List Char :=
  (text.reverse.dropWhile drop).reverse

/-- The text without blanks at either end. -/
def trim (text : List Char) : List Char :=
  trimEndWhile isBlank (trimStart text)

/-- The line held in `reversed` without a carriage return at its end. -/
def closeLine : List Char → List Char
  | '\r' :: before => before.reverse
  | reversed => reversed.reverse

/-- The lines of a text whose current line, reversed, is already read. -/
def linesFrom (reversed : List Char) : List Char → List (List Char)
  | [] => if reversed.isEmpty then [] else [reversed.reverse]
  | '\n' :: rest => closeLine reversed :: linesFrom [] rest
  | char :: rest => linesFrom (char :: reversed) rest

/-- The lines of a text. A line ends with a line feed, which may follow a carriage
return. The last line needs no end, and an end at the end of the text starts no further
line. -/
def lines (text : List Char) : List (List Char) :=
  linesFrom [] text

end GodotSdk.Text
