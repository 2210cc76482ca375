import GodotSdk.Yaml.Cursor

/-!
# Scalars in YAML texts

How the text of a scalar is read in each of its styles: plain, in quotes, or as a block
of lines. Line breaks within a scalar are folded, unless it is a literal block.
-/

namespace GodotSdk.Yaml

/-- How a scalar is written. -/
inductive ScalarStyle
  | plain
  | singleQuoted
  | doubleQuoted
  | literal
  | folded
deriving DecidableEq, Repr

/-- White space within a scalar: blanks on one line, or line breaks. The first break is
kept apart from those after it. -/
structure Gap where
  broken : Bool
  blanks : List Char
  first : List Char
  later : List Char

namespace Gap

def none : Gap := ⟨false, [], [], []⟩

def isNone (gap : Gap) : Bool :=
  !gap.broken && gap.blanks.isEmpty

/-- The text that white space stands for. A single line break becomes a space. -/
def folded (gap : Gap) : List Char :=
  if !gap.broken then gap.blanks
  else if gap.first == ['\n'] then if gap.later.isEmpty then [' '] else gap.later
  else gap.first ++ gap.later

end Gap

/-- Read blanks and line breaks. Within a plain scalar tabs may not stand left of column
`indent`. -/
def readGap (steps indent : Nat) (gap : Gap) (cursor : Cursor) :
    Option (Gap × Cursor) :=
  match steps, cursor.peek? with
  | steps + 1, some char =>
      if isBlank char then
        if gap.broken && char == '\t' && cursor.column < indent then .none
        else
          let gap := if gap.broken then gap
              else { gap with blanks := gap.blanks ++ [char] }
          readGap steps indent gap (cursor.skip 1)
      else if isBreak char then
        let (text, cursor) := cursor.readBreak
        let gap :=
          if gap.broken then { gap with later := gap.later ++ text }
          else { gap with broken := true, blanks := [], first := text }
        readGap steps indent gap cursor
      else some (gap, cursor)
  | _, _ => some (gap, cursor)

/-! ## Plain scalars -/

/-- Whether a plain scalar ends at the next character, which is no white space. -/
def endsPlain (inFlow : Bool) (cursor : Cursor) : Bool :=
  (cursor.looksAt ':' && cursor.endsAt 1) || (inFlow && cursor.sees 0 isFlowIndicator)

/-- Whether a colon comes next that may not stand in a flow collection. -/
def misplacedColon (inFlow : Bool) (cursor : Cursor) : Bool :=
  inFlow && cursor.looksAt ':' && cursor.sees 1 fun char => isFlowIndicator char ||
    char == '?'

/-- Read a plain scalar, of which `reversed` is read already. White space at its end is
not part of it, but it matters to what follows whether there was a line break. -/
def readPlain (steps : Nat) (inFlow : Bool) (indent : Nat) (gap : Gap)
    (reversed : List Char) (cursor : Cursor) : Option (List Char × Bool × Cursor) :=
  match steps, cursor.peek? with
  | steps + 1, some char =>
      if isBlank char || isBreak char then do
        let (gap, cursor) ← readGap (cursor.rest.length + 1) indent gap cursor
        if (!inFlow && cursor.column < indent) || cursor.atDocumentMarker ||
          cursor.looksAt '#' then
          some (reversed.reverse, gap.broken, cursor)
        else readPlain steps inFlow indent gap reversed cursor
      else if misplacedColon inFlow cursor then .none
      else if endsPlain inFlow cursor then some (reversed.reverse, gap.broken, cursor)
      else readPlain steps inFlow indent .none
        (char :: (gap.folded.reverse ++ reversed)) (cursor.skip 1)
  | _, _ => some (reversed.reverse, gap.broken, cursor)

/-! ## Quoted scalars -/

/-- The character that a short escape stands for. -/
def shortEscape? : Char → Option Char
  | '0' => some '\x00'
  | 'a' => some '\x07'
  | 'b' => some '\x08'
  | 't' | '\t' => some '\t'
  | 'n' => some '\n'
  | 'v' => some '\x0b'
  | 'f' => some '\x0c'
  | 'r' => some '\r'
  | 'e' => some '\x1b'
  | ' ' => some ' '
  | '"' => some '"'
  | '/' => some '/'
  | '\\' => some '\\'
  | 'N' => some '\u0085'
  | '_' => some '\u00a0'
  | 'L' => some '\u2028'
  | 'P' => some '\u2029'
  | _ => none

/-- How many hexadecimal digits an escape has. -/
def escapeDigits? : Char → Option Nat
  | 'x' => some 2
  | 'u' => some 4
  | 'U' => some 8
  | _ => none

def hexDigit? (char : Char) : Option Nat :=
  if '0' ≤ char && char ≤ '9' then some (char.toNat - '0'.toNat)
  else if 'a' ≤ char && char ≤ 'f' then some (char.toNat - 'a'.toNat + 10)
  else if 'A' ≤ char && char ≤ 'F' then some (char.toNat - 'A'.toNat + 10)
  else none

/-- The number that a given count of hexadecimal digits denotes. -/
def readHex (count : Nat) (text : List Char) : Option Nat :=
  if text.length < count then none
  else (text.take count).foldlM (fun number char =>
    do return number * 16 + (← hexDigit? char)) 0

/-- The character with a code point. -/
def charOfCode? (code : Nat) : Option Char :=
  if code.isValidChar then some (Char.ofNat code) else none

/-- Read an escape after its backslash: its character and its length. -/
def readEscape (text : List Char) : Option (Char × Nat) :=
  match text with
  | [] => none
  | kind :: rest =>
      match shortEscape? kind, escapeDigits? kind with
      | some char, _ => some (char, 1)
      | none, some count => do return (← charOfCode? (← readHex count rest), 1 + count)
      | none, none => none

/-- Read a quoted scalar after its opening quote. The text may not reach a document
marker before it ends. -/
def readQuoted (steps : Nat) (quote : Char) (reversed : List Char) (cursor : Cursor) :
    Option (List Char × Cursor) :=
  match steps, cursor.peek? with
  | steps + 1, some char =>
      if cursor.atDocumentMarker then none
      else if isBlank char || isBreak char then do
        let (gap, cursor) ← readGap (cursor.rest.length + 1) 0 .none cursor
        readQuoted steps quote (gap.folded.reverse ++ reversed) cursor
      else if char == quote then
        if quote == '\'' && cursor.peekAt? 1 == some '\'' then
          readQuoted steps quote ('\'' :: reversed) (cursor.skip 2)
        else some (reversed.reverse, cursor.skip 1)
      else if quote == '"' && char == '\\' then
        if cursor.sees 1 isBreak then do
          -- An escaped line break stands for nothing, and so do the blanks after it.
          let (_, cursor) := (cursor.skip 1).readBreak
          let gap : Gap := ⟨true, [], [], []⟩
          let (gap, cursor) ← readGap (cursor.rest.length + 1) 0 gap cursor
          readQuoted steps quote (gap.folded.reverse ++ reversed) cursor
        else do
          let (char, length) ← readEscape (cursor.rest.drop 1)
          readQuoted steps quote (char :: reversed) (cursor.skip (1 + length))
      else readQuoted steps quote (char :: reversed) (cursor.skip 1)
  | _, _ => none

/-! ## Block scalars -/

/-- What happens to the line breaks at the end of a block. -/
inductive Chomping
  | strip
  | clip
  | keep
deriving DecidableEq, Repr

/-- Read the signs after the mark of a block: how it is chomped, and its indentation
relative to the parent. -/
def readBlockSigns (text : List Char) : Option (Chomping × Option Nat × Nat) :=
  let chomping? (char : Char) : Option Chomping :=
    if char == '+' then some .keep else if char == '-' then some .strip else none
  let digit? (char : Char) : Option Nat :=
    if char.isDigit then some (char.toNat - '0'.toNat) else none
  match text.head?.bind chomping?, text.head?.bind digit? with
  | some chomping, _ =>
      match text.tail.head?.bind digit? with
      | some 0 => none
      | some indent => some (chomping, some indent, 2)
      | none => some (chomping, none, 1)
  | none, some 0 => none
  | none, some indent =>
      match text.tail.head?.bind chomping? with
      | some chomping => some (chomping, some indent, 2)
      | none => some (.clip, some indent, 1)
  | none, none => some (.clip, none, 0)

/-- Read the empty lines of a block up to the next line with text, and the indentation
before it. Without a known indentation, the widest one so far is also given. -/
def readBlockBreaks (steps : Nat) (indent : Option Nat) (widest : Nat)
    (breaks : List Char) (cursor : Cursor) : Option (Nat × List Char × Cursor) :=
  match steps with
  | 0 => none
  | steps + 1 =>
      let spaces := (cursor.rest.takeWhile (· == ' ')).length
      let cursor := cursor.skip (match indent with
        | some indent => min spaces (indent - cursor.column)
        | none => spaces)
      let widest := max widest cursor.column
      if cursor.looksAt '\t' && indent.all (cursor.column < ·) then none
      else if cursor.sees 0 isBreak then
        let (text, cursor) := cursor.readBreak
        readBlockBreaks steps indent widest (breaks ++ text) cursor
      else some (widest, breaks, cursor)

/-- Read the lines of a block. `lineBreak` is the break after the last line, `breaks`
are those after it, and `deeper` tells whether the last line began with a blank. -/
def readBlockLines (steps indent : Nat) (folds : Bool) (deeper : Bool)
    (lineBreak breaks reversed : List Char) (cursor : Cursor) :
    Option (List Char × List Char × List Char × Cursor) :=
  match steps with
  | 0 => none
  | steps + 1 =>
      if cursor.column ≠ indent || cursor.isAtEnd then
        some (reversed, lineBreak, breaks, cursor)
      else do
        let blank := cursor.sees 0 isBlank
        let joint :=
          if folds && lineBreak == ['\n'] && !deeper && !blank then
            if breaks.isEmpty then [' '] else breaks
          else lineBreak ++ breaks
        let line := cursor.rest.takeWhile fun char => !isBreak char
        let (lineBreak, cursor) := (cursor.skip line.length).readBreak
        let (_, breaks, cursor) ← readBlockBreaks (cursor.rest.length + 1) (some indent)
            0 [] cursor
        readBlockLines steps indent folds blank lineBreak breaks
          (line.reverse ++ (joint.reverse ++ reversed)) cursor

/-- Read a block scalar after its mark. `parent` is one more than the column of the
collection around it, or zero outside of all. -/
def readBlock (folds : Bool) (parent : Nat) (cursor : Cursor) :
    Option (List Char × Cursor) := do
  let (chomping, increment, length) ← readBlockSigns cursor.rest
  let cursor := ((cursor.skip length).skipWhile isBlank).skipComment
  if !cursor.atLineEnd then none
  let (_, cursor) := cursor.readBreak
  let known := increment.map fun increment => if parent = 0 then increment
      else parent - 1 + increment
  let (widest, breaks, cursor) ← readBlockBreaks (cursor.rest.length + 1) known
      0 [] cursor
  let indent := known.getD (max widest (max parent 1))
  let (reversed, lineBreak, breaks, cursor) ←
    readBlockLines (cursor.rest.length + 1) indent folds false [] breaks [] cursor
  let text := reversed.reverse
  return (match chomping with
    | .strip => text
    | .clip => text ++ lineBreak
    | .keep => text ++ lineBreak ++ breaks, cursor)

end GodotSdk.Yaml
