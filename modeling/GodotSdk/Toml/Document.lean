import GodotSdk.Toml.Scalar

/-!
# TOML documents

A document is a table. It is read line by line: a header chooses the table that the keys
after it belong to.
-/

namespace GodotSdk.Toml

/-- Characters of keys without quotes. -/
def isKeyChar (char : Char) : Bool :=
  char.isAlphanum || char == '_' || char == '-'

/-- Read one part of a key. -/
def readKeyPart (text : List Char) : Option (String × List Char) :=
  let word := text.takeWhile isKeyChar
  if word.isEmpty then readQuoted text
    else some (String.ofList word, text.drop word.length)

/-- Read a key, whose parts are separated by dots, and the blanks around it. -/
def readKey (steps : Nat) (text : List Char) : Option (List String × List Char) :=
  match steps with
  | 0 => none
  | steps + 1 => do
      let (part, rest) ← readKeyPart (skipBlanks text)
      match skipBlanks rest with
      | '.' :: rest =>
          let (parts, rest) ← readKey steps rest
          return (part :: parts, rest)
      | rest => return ([part], rest)

/-- The text after a comment, if one comes next. -/
def skipComment : List Char → Option (List Char)
  | '#' :: rest =>
      let rest := rest.dropWhile isPrintable
      if rest.isEmpty || (skipBreak? rest).isSome then some rest else none
  | text => some text

/-- The text after blanks, comments and line breaks. -/
def skipFiller (steps : Nat) (text : List Char) : Option (List Char) :=
  match steps with
  | 0 => none
  | steps + 1 => do
      let rest ← skipComment (skipBlanks text)
      match skipBreak? rest with
      | some rest => skipFiller steps rest
      | none => return rest

/-- How deeply arrays and inline tables may be nested. -/
def nestingLimit : Nat := 80

mutual
/-- Read a value. At most `depth` arrays and tables may be nested. The first argument
bounds the number of steps. -/
def readValue (steps depth : Nat) (text : List Char) : Option (Value × List Char) :=
  match steps with
  | 0 => none
  | steps + 1 =>
      match text with
      | '[' :: rest =>
          if depth = 0 then none
          else do
            let (items, rest) ← readItems steps (depth - 1) rest
            return (.array items, rest)
      | '\x7b' :: rest =>
          if depth = 0 then none
          else do
            let (entries, rest) ← readPairs steps (depth - 1) [] rest
            return (.table (entryValues entries), rest)
      | '"' :: _ | '\'' :: _ => do
          let (value, rest) ← readText text
          return (.text value, rest)
      | _ => readWord text

/-- Read the items of an array and its end. -/
def readItems (steps depth : Nat) (text : List Char) :
    Option (List Value × List Char) :=
  match steps with
  | 0 => none
  | steps + 1 => do
      match ← skipFiller (text.length + 1) text with
      | ']' :: rest => return ([], rest)
      | text =>
          let (item, rest) ← readValue steps depth text
          match ← skipFiller (rest.length + 1) rest with
          | ',' :: rest =>
              let (items, rest) ← readItems steps depth rest
              return (item :: items, rest)
          | ']' :: rest => return ([item], rest)
          | _ => none

/-- Read the pairs of an inline table and its end, given the entries so far. -/
def readPairs (steps depth : Nat) (entries : Entries) (text : List Char) :
    Option (Entries × List Char) :=
  match steps with
  | 0 => none
  | steps + 1 => do
      match ← skipFiller (text.length + 1) text with
      | '\x7d' :: rest => return (entries, rest)
      | text =>
          let (key, rest) ← readKey (text.length + 1) text
          let (value, rest) ← match rest with
            | '=' :: rest => readValue steps depth (skipBlanks rest)
            | _ => none
          let entries ← addValue key.dropLast (key.getLastD "") value entries
          match ← skipFiller (rest.length + 1) rest with
          | ',' :: rest => readPairs steps depth entries rest
          | '\x7d' :: rest => return (entries, rest)
          | _ => none
end

/-- Read a key, an equals sign and a value. -/
def readPair (text : List Char) : Option (List String × Value × List Char) := do
  let (key, rest) ← readKey (text.length + 1) text
  match rest with
  | '=' :: rest =>
      let rest := skipBlanks rest
      let (value, rest) ← readValue (rest.length + 1) nestingLimit rest
      return (key, value, rest)
  | _ => none

/-- A document being read: its entries, and the path of the table that keys belong
to. -/
structure Draft where
  entries : Entries
  header : List String

/-- Begin the table, or the next of several tables, that a header names. -/
def Draft.begin (draft : Draft) (several : Bool) (path : List String) :
    Option Draft := do
  let key := path.getLastD ""
  let add := if several then addElement key else addTable key
  let entries ← changeAt false (fun _ inner => add inner) .declared draft.entries
      path.dropLast
  return ⟨entries, path⟩

/-- Add a pair to the table that keys belong to. -/
def Draft.add (draft : Draft) (key : List String) (value : Value) : Option Draft := do
  let change (_ : TableKind) (inner : Entries) : Option Entries :=
    addValue key.dropLast (key.getLastD "") value inner
  return { draft with
    entries := ← changeAt false change .declared draft.entries draft.header }

/-- Read what one line begins with: a header, a pair, or nothing. -/
def Draft.readLine (draft : Draft) (text : List Char) : Option (Draft × List Char) :=
  match text with
  | '[' :: '[' :: rest => do
      let (path, rest) ← readKey (rest.length + 1) rest
      match rest with
      | ']' :: ']' :: rest => return (← draft.begin true path, rest)
      | _ => none
  | '[' :: rest => do
      let (path, rest) ← readKey (rest.length + 1) rest
      match rest with
      | ']' :: rest => return (← draft.begin false path, rest)
      | _ => none
  | text => do
      let (key, value, rest) ← readPair text
      return (← draft.add key value, rest)

/-- Read the lines of a document. -/
def Draft.read (steps : Nat) (draft : Draft) (text : List Char) : Option Draft :=
  match steps with
  | 0 => none
  | steps + 1 => do
      match ← skipFiller (text.length + 1) text with
      | [] => return draft
      | text =>
          let (draft, rest) ← draft.readLine text
          let rest ← skipComment (skipBlanks rest)
          if rest.isEmpty then return draft
          read steps draft (← skipBreak? rest)

/-- The table that a text denotes, if it is a document. A byte order mark may come
first. -/
def Value.ofText? (text : String) : Option Value := do
  let chars := match text.toList with
    | '\uFEFF' :: rest => rest
    | chars => chars
  let draft ← Draft.read (chars.length + 1) ⟨[], []⟩ chars
  return .table (entryValues draft.entries)

end GodotSdk.Toml
