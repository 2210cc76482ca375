import GodotSdk.Yaml.Scalar

/-!
# Tags in YAML texts

A tag is written in full, or with a handle that stands for the beginning of the tag.
Directives give handles their meaning.
-/

namespace GodotSdk.Yaml

/-- A tag as written: its handle, which is empty for a tag written in full, and the
rest. -/
structure TagName where
  handle : String
  suffix : String
deriving DecidableEq, Repr

/-- Characters of tags. Within angle brackets the brackets and commas of flow
collections are allowed, too. -/
def isTagChar (bracketed : Bool) (char : Char) : Bool :=
  isWordChar char || ";/?:@&=+$.%!~*'()".contains char
    || (bracketed && (char == ',' || char == '[' || char == ']'))

/-- How many bytes a character takes in UTF-8, by its first byte. -/
def byteCount? (byte : Nat) : Option Nat :=
  if byte < 0x80 then some 1
  else if byte / 0x20 = 0x6 then some 2
  else if byte / 0x10 = 0xE then some 3
  else if byte / 0x8 = 0x1E then some 4
  else none

/-- Read the byte of an escape. -/
def readByte : List Char → Option (Nat × List Char)
  | '%' :: first :: second :: rest => do
      return ((← hexDigit? first) * 16 + (← hexDigit? second), rest)
  | _ => none

/-- Read the further bytes of a character. -/
def readTail (count code : Nat) (text : List Char) : Option (Nat × List Char) :=
  match count with
  | 0 => some (code, text)
  | count + 1 => do
      let (byte, rest) ← readByte text
      if byte / 0x40 ≠ 2 then none
      readTail count (code * 0x40 + byte % 0x40) rest

/-- Read a character that is escaped byte by byte. -/
def readTagEscape (text : List Char) : Option (Char × List Char) := do
  let (byte, rest) ← readByte text
  let count ← byteCount? byte
  let lead := if count = 1 then byte else byte % Nat.pow 2 (7 - count)
  let (code, rest) ← readTail (count - 1) lead rest
  return (Char.ofNat code, rest)

/-- Read the characters of a tag. -/
def readTagText (steps : Nat) (bracketed : Bool) (reversed : List Char)
    (text : List Char) :
    Option (List Char × List Char) :=
  match steps, text with
  | steps + 1, char :: rest =>
      if !isTagChar bracketed char then some (reversed.reverse, text)
      else if char == '%' then do
        let (char, rest) ← readTagEscape text
        readTagText steps bracketed (char :: reversed) rest
      else readTagText steps bracketed (char :: reversed) rest
  | _, _ => some (reversed.reverse, text)

/-- Read a handle: an exclamation mark, and possibly a word and a second mark. -/
def readHandle : List Char → Option (List Char × List Char)
  | '!' :: rest =>
      let word := rest.takeWhile isWordChar
      let rest := rest.drop word.length
      match rest with
      | '!' :: rest => some ('!' :: (word ++ ['!']), rest)
      | rest => some ('!' :: word, rest)
  | _ => none

/-- Read a tag, which begins with an exclamation mark. -/
def readTag (text : List Char) : Option (TagName × List Char) :=
  match text with
  | '!' :: '<' :: rest => do
      let (suffix, rest) ← readTagText (rest.length + 1) true [] rest
      match rest with
      | '>' :: rest =>
          if suffix.isEmpty then none else some (⟨"", String.ofList suffix⟩, rest)
      | _ => none
  | _ => do
      let (handle, rest) ← readHandle text
      if 2 ≤ handle.length && handle.getLast? = some '!' then
        let (suffix, rest) ← readTagText (rest.length + 1) false [] rest
        if suffix.isEmpty then none
          else some (⟨String.ofList handle, String.ofList suffix⟩, rest)
      else
        -- What looked like a handle is the beginning of the tag itself.
        let (suffix, rest) ← readTagText (rest.length + 1) false [] rest
        let suffix := handle.drop 1 ++ suffix
        if suffix.isEmpty then some (⟨"", "!"⟩, rest)
        else some (⟨"!", String.ofList suffix⟩, rest)

/-- What a directive says: a version of YAML, or what a handle stands for. -/
inductive Directive
  | version (major minor : Nat)
  | handle (handle start : String)
deriving DecidableEq, Repr

/-- Read a number of at most nine digits. -/
def readVersionNumber (text : List Char) : Option (Nat × List Char) :=
  let digits := text.takeWhile Char.isDigit
  if digits.isEmpty || 9 < digits.length then none
  else
    some (digits.foldl (fun number digit => number * 10 + (digit.toNat - '0'.toNat)) 0,
      text.drop digits.length)

/-- Read the version that a directive declares. -/
def readVersion (text : List Char) : Option (Directive × List Char) := do
  let (major, rest) ← readVersionNumber (text.dropWhile isBlank)
  match rest with
  | '.' :: rest =>
      let (minor, rest) ← readVersionNumber rest
      return (.version major minor, rest)
  | _ => none

/-- Read the handle that a directive declares, and what it stands for. -/
def readHandleDirective (text : List Char) : Option (Directive × List Char) := do
  let (handle, rest) ← readHandle (text.dropWhile isBlank)
  if 1 < handle.length && handle.getLast? ≠ some '!' then none
  if !rest.head?.any isBlank then none
  let rest := rest.dropWhile isBlank
  let (start, rest) ← readTagText (rest.length + 1) true [] rest
  if start.isEmpty ||
    !rest.head?.all (fun char => isBlank char || isBreak char) then none
  return (.handle (String.ofList handle) (String.ofList start), rest)

/-- Read a directive after its percent sign, and what follows up to the next line. -/
def readDirective (cursor : Cursor) : Option (Directive × Cursor) := do
  let name := cursor.rest.takeWhile isWordChar
  let rest := cursor.rest.drop name.length
  if name.isEmpty ||
    !rest.head?.all (fun char => isBlank char || isBreak char) then none
  let (directive, rest) ←
    if name == "YAML".toList then readVersion rest
    else if name == "TAG".toList then readHandleDirective rest
    else none
  let cursor :=
    ((cursor.skip (cursor.rest.length - rest.length)).skipWhile isBlank).skipComment
  if !cursor.atLineEnd then none
  return (directive, cursor.readBreak.2)

end GodotSdk.Yaml
