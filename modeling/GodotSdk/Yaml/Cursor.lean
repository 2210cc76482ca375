/-!
# Positions in YAML texts

The text from a position on, together with the line and column of the position, which
give YAML its structure.
-/

namespace GodotSdk.Yaml

/-- Characters that may stand in a YAML text. -/
def isAllowed (char : Char) : Bool :=
  let code := char.toNat
  code = 0x9 || code = 0xA || code = 0xD || (0x20 ≤ code && code ≤ 0x7E) || code = 0x85
    || (0xA0 ≤ code && code ≤ 0xD7FF) || (0xE000 ≤ code && code ≤ 0xFFFD) ||
      0x10000 ≤ code

/-- Spaces and tabs. -/
def isBlank (char : Char) : Bool :=
  char == ' ' || char == '\t'

/-- Line breaks. -/
def isBreak (char : Char) : Bool :=
  char == '\r' || char == '\n' || char == '\u0085' || char == '\u2028' ||
    char == '\u2029'

/-- Characters of names: ASCII letters, digits, underscores and hyphens. -/
def isWordChar (char : Char) : Bool :=
  char.isAlphanum || char == '_' || char == '-'

/-- The brackets and commas of flow collections. -/
def isFlowIndicator (char : Char) : Bool :=
  char == ',' || char == '[' || char == ']' || char == '\x7b' || char == '\x7d'

/-- A position in a text: what follows it, how many characters come before it, and its
line and column. -/
structure Cursor where
  rest : List Char
  index : Nat
  line : Nat
  column : Nat

namespace Cursor

/-- The beginning of a text. -/
def ofText (text : List Char) : Cursor :=
  ⟨text, 0, 0, 0⟩

def peek? (cursor : Cursor) : Option Char :=
  cursor.rest.head?

/-- The character some places on. -/
def peekAt? (cursor : Cursor) (offset : Nat) : Option Char :=
  cursor.rest[offset]?

/-- Whether a given character comes next. -/
def looksAt (cursor : Cursor) (char : Char) : Bool :=
  cursor.peek? == some char

/-- Whether a character with a property comes some places on. The end of the text has
none. -/
def sees (cursor : Cursor) (offset : Nat) (property : Char → Bool) : Bool :=
  (cursor.peekAt? offset).any property

/-- Whether a space, a tab, a line break or the end of the text comes some places on. -/
def endsAt (cursor : Cursor) (offset : Nat) : Bool :=
  (cursor.peekAt? offset).all fun char => isBlank char || isBreak char

/-- Whether a line break or the end of the text comes next. -/
def atLineEnd (cursor : Cursor) : Bool :=
  cursor.peek?.all isBreak

def isAtEnd (cursor : Cursor) : Bool :=
  cursor.rest.isEmpty

/-- Go past some characters of the same line. -/
def skip (cursor : Cursor) (count : Nat) : Cursor :=
  { cursor with
    rest := cursor.rest.drop count
    index := cursor.index + count
    column := cursor.column + count }

/-- Go past a line break, and give the text that stands for it. Only the two Unicode
separators are kept. -/
def readBreak (cursor : Cursor) : List Char × Cursor :=
  let next (count : Nat) : Cursor :=
    ⟨cursor.rest.drop count, cursor.index + count, cursor.line + 1, 0⟩
  match cursor.rest with
  | '\r' :: '\n' :: _ => (['\n'], next 2)
  | char :: _ =>
      if char == '\u2028' || char == '\u2029' then ([char], next 1)
      else if isBreak char then (['\n'], next 1)
      else ([], cursor)
  | [] => ([], cursor)

/-- Go past the characters of the same line that have a property. -/
def skipWhile (cursor : Cursor) (property : Char → Bool) : Cursor :=
  cursor.skip (cursor.rest.takeWhile property).length

/-- Go past characters up to the end of the line. -/
def skipLine (cursor : Cursor) : Cursor :=
  cursor.skipWhile fun char => !isBreak char

/-- Go past a comment, if one comes next. -/
def skipComment (cursor : Cursor) : Cursor :=
  if cursor.looksAt '#' then cursor.skipLine else cursor

/-- Whether three given characters and the end of a word come next, at the start of a
line. -/
def looksAtMarker (cursor : Cursor) (char : Char) : Bool :=
  cursor.column = 0 && (cursor.rest.take 3 == [char, char, char]) && cursor.endsAt 3

/-- Whether the start or the end of a document is marked here. -/
def atDocumentMarker (cursor : Cursor) : Bool :=
  cursor.looksAtMarker '-' || cursor.looksAtMarker '.'

end Cursor

end GodotSdk.Yaml
