import GodotSdk.Yaml.Tag

/-!
# Tokens of YAML texts

A text falls into tokens, of which some stand for no characters: they mark where a block
collection begins or ends, as indentation tells. Whether a scalar is a key is known only
at the colon after it, so the marks of a key are put in front of what is read already.
-/

namespace GodotSdk.Yaml

inductive Token
  | directive (directive : Directive)
  | documentStart
  | documentEnd
  | blockSequenceStart
  | blockMappingStart
  | blockEnd
  | flowSequenceStart
  | flowSequenceEnd
  | flowMappingStart
  | flowMappingEnd
  | blockEntry
  | flowEntry
  | key
  | value
  | alias (name : String)
  | anchor (name : String)
  | tag (name : TagName)
  | scalar (style : ScalarStyle) (text : String)
deriving DecidableEq, Repr

/-- A place where a key may have begun: its position among the tokens and in the text.
It is required where only a key can stand. -/
structure KeyMark where
  required : Bool
  token : Nat
  index : Nat
  line : Nat
  column : Nat

/-- The state of reading tokens. `levels` holds the mark of a possible key for each open
flow collection, the innermost first, and `outer` that of the text around them all.
`indents` holds the columns of the open block collections as numbers that are one
higher, so that zero stands for none. -/
structure Scan where
  cursor : Cursor
  tokens : Array Token
  indent : Nat
  indents : List Nat
  levels : List (Option KeyMark)
  outer : Option KeyMark
  keyAllowed : Bool

namespace Scan

def ofText (text : List Char) : Scan :=
  ⟨.ofText text, #[], 0, [], [], none, true⟩

def inFlow (scan : Scan) : Bool :=
  !scan.levels.isEmpty

def push (scan : Scan) (token : Token) : Scan :=
  { scan with tokens := scan.tokens.push token }

def moveTo (scan : Scan) (cursor : Cursor) : Scan :=
  { scan with cursor }

def skip (scan : Scan) (count : Nat) : Scan :=
  scan.moveTo (scan.cursor.skip count)

def allowKey (scan : Scan) (keyAllowed : Bool) : Scan :=
  { scan with keyAllowed }

/-- The mark of a possible key at the present level. -/
def mark? (scan : Scan) : Option KeyMark :=
  scan.levels.head?.getD scan.outer

def setMark (scan : Scan) (mark : Option KeyMark) : Scan :=
  match scan.levels with
  | _ :: rest => { scan with levels := mark :: rest }
  | [] => { scan with outer := mark }

/-- Forget a possible key. A required one must not be forgotten. -/
def dropMark (scan : Scan) : Option Scan :=
  if scan.mark?.any (·.required) then none else some (scan.setMark none)

/-- Remember that a key may begin here. -/
def saveMark (scan : Scan) : Option Scan :=
  if scan.keyAllowed then do
    let scan ← scan.dropMark
    let required := !scan.inFlow && scan.indent = scan.cursor.column + 1
    return scan.setMark (some
      ⟨required, scan.tokens.size, scan.cursor.index, scan.cursor.line,
        scan.cursor.column⟩)
  else some scan

/-- The mark of a key that ends here. A key is on one line and has at most 1024
characters. -/
def endedKey? (scan : Scan) : Option (Option KeyMark) :=
  match scan.mark? with
  | none => some none
  | some mark =>
      if mark.line < scan.cursor.line || mark.index + 1024 < scan.cursor.index then
        if mark.required then none else some none
      else some (some mark)

/-- Begin a block collection at a column, unless one has begun there. Its token is put
at a given place, or at the end. -/
def roll (scan : Scan) (column : Nat) (place : Option Nat) (token : Token) : Scan :=
  if scan.inFlow || column < scan.indent then scan
  else
    { scan with
      indent := column + 1
      indents := scan.indent :: scan.indents
      tokens := match place with
        | some place => scan.tokens.insertIdxIfInBounds place token
        | none => scan.tokens.push token }

/-- End the block collections that are indented more than `limit`, which is one more
than a column. -/
def closeBlocks (limit indent : Nat) (indents : List Nat) (tokens : Array Token) :
    Nat × List Nat × Array Token :=
  if indent ≤ limit then (indent, indents, tokens)
  else
    match indents with
    | [] => (indent, [], tokens)
    | indent :: rest => closeBlocks limit indent rest (tokens.push .blockEnd)

/-- End the block collections that are indented more than a column, or all of them. -/
def unroll (scan : Scan) (limit : Nat) : Scan :=
  if scan.inFlow then scan
  else
    let (indent, indents, tokens) :=
      closeBlocks limit scan.indent scan.indents scan.tokens
    { scan with indent, indents, tokens }

/-- Go past blanks, comments and line breaks to the next token. A line may begin with a
byte order mark. In a block, tabs are no indentation. -/
def toNext (steps : Nat) (scan : Scan) : Scan :=
  match steps with
  | 0 => scan
  | steps + 1 =>
      let cursor := if scan.cursor.column = 0 && scan.cursor.looksAt '\uFEFF' then
          scan.cursor.skip 1
        else scan.cursor
      let tabs := scan.inFlow || !scan.keyAllowed
      let cursor :=
        (cursor.skipWhile fun char => char == ' ' || (tabs && char == '\t')).skipComment
      if cursor.sees 0 isBreak then
        let scan := scan.moveTo cursor.readBreak.2
        toNext steps (if scan.inFlow then scan else scan.allowKey true)
      else scan.moveTo cursor

/-! ## Reading one token -/

/-- Leave all blocks, as the start or the end of a document does. -/
def leaveBlocks (scan : Scan) : Option Scan := do
  return (← (scan.unroll 0).dropMark).allowKey false

def readDirectiveToken (scan : Scan) : Option Scan := do
  let scan ← scan.leaveBlocks
  let (directive, cursor) ← readDirective (scan.cursor.skip 1)
  return (scan.push (.directive directive)).moveTo cursor

def readMarker (scan : Scan) (token : Token) : Option Scan := do
  return ((← scan.leaveBlocks).push token).skip 3

def openFlow (scan : Scan) (token : Token) : Option Scan := do
  let scan ← scan.saveMark
  let scan := { scan with levels := none :: scan.levels }
  return ((scan.allowKey true).push token).skip 1

def closeFlow (scan : Scan) (token : Token) : Option Scan := do
  let scan ← scan.dropMark
  let scan := { scan with levels := scan.levels.tail }
  return ((scan.allowKey false).push token).skip 1

def readFlowEntry (scan : Scan) : Option Scan := do
  return (((← scan.dropMark).allowKey true).push .flowEntry).skip 1

def readBlockEntry (scan : Scan) : Option Scan := do
  if !scan.inFlow && !scan.keyAllowed then none
  let scan ← (scan.roll scan.cursor.column none .blockSequenceStart).dropMark
  return ((scan.allowKey true).push .blockEntry).skip 1

def readKey (scan : Scan) : Option Scan := do
  if !scan.inFlow && !scan.keyAllowed then none
  let scan ← (scan.roll scan.cursor.column none .blockMappingStart).dropMark
  return ((scan.allowKey !scan.inFlow).push .key).skip 1

def readValue (scan : Scan) : Option Scan := do
  match ← scan.endedKey? with
  | some mark =>
      let scan := { scan with
          tokens := scan.tokens.insertIdxIfInBounds mark.token .key }
      let scan := scan.roll mark.column (some mark.token) .blockMappingStart
      return (((scan.setMark none).allowKey false).push .value).skip 1
  | none =>
      if !scan.inFlow && !scan.keyAllowed then none
      let scan := (scan.roll scan.cursor.column none .blockMappingStart).setMark none
      return ((scan.allowKey !scan.inFlow).push .value).skip 1

/-- Whether the name of an anchor or alias may end here. -/
def endsName (cursor : Cursor) : Bool :=
  cursor.endsAt 0 || cursor.sees 0 fun char => "?:,]\x7d%@`".contains char

def readName (scan : Scan) (token : String → Token) : Option Scan := do
  let scan := (← scan.saveMark).allowKey false
  let cursor := scan.cursor.skip 1
  let name := cursor.rest.takeWhile isWordChar
  let cursor := cursor.skip name.length
  if name.isEmpty || !endsName cursor then none
  return (scan.push (token (String.ofList name))).moveTo cursor

def readTagToken (scan : Scan) : Option Scan := do
  let scan := (← scan.saveMark).allowKey false
  let (name, rest) ← readTag scan.cursor.rest
  let cursor := scan.cursor.skip (scan.cursor.rest.length - rest.length)
  if !cursor.endsAt 0 && !(scan.inFlow && cursor.looksAt ',') then none
  return (scan.push (.tag name)).moveTo cursor

def readBlockScalar (scan : Scan) (folds : Bool) : Option Scan := do
  let scan := (← scan.dropMark).allowKey true
  let (text, cursor) ← readBlock folds scan.indent (scan.cursor.skip 1)
  let style := if folds then ScalarStyle.folded else .literal
  return (scan.push (.scalar style (String.ofList text))).moveTo cursor

def readQuotedScalar (scan : Scan) (quote : Char) : Option Scan := do
  let scan := (← scan.saveMark).allowKey false
  let cursor := scan.cursor.skip 1
  let (text, cursor) ← readQuoted (cursor.rest.length + 1) quote [] cursor
  let style := if quote == '"' then ScalarStyle.doubleQuoted else .singleQuoted
  return (scan.push (.scalar style (String.ofList text))).moveTo cursor

def readPlainScalar (scan : Scan) : Option Scan := do
  let scan := (← scan.saveMark).allowKey false
  let cursor := scan.cursor
  let (text, broken, cursor) ←
    readPlain (cursor.rest.length + 1) scan.inFlow scan.indent .none [] cursor
  let scan := (scan.push (.scalar .plain (String.ofList text))).moveTo cursor
  return if broken then scan.allowKey true else scan

/-- Whether a plain scalar may begin with a character, which is no white space. -/
def beginsPlain (scan : Scan) (char : Char) : Bool :=
  if "-?:,[]\x7b\x7d#&*!|>'\"%@`".contains char then
    (char == '-' && !scan.cursor.sees 1 isBlank)
      || (!scan.inFlow && (char == '?' || char == ':') && !scan.cursor.endsAt 1)
  else !isBlank char && !isBreak char

/-- Read the token that begins with a character. -/
def readToken (scan : Scan) (char : Char) : Option Scan :=
  let cursor := scan.cursor
  if cursor.column = 0 && char == '%' then scan.readDirectiveToken
  else if cursor.looksAtMarker '-' then scan.readMarker .documentStart
  else if cursor.looksAtMarker '.' then scan.readMarker .documentEnd
  else if char == '[' then scan.openFlow .flowSequenceStart
  else if char == '\x7b' then scan.openFlow .flowMappingStart
  else if char == ']' then scan.closeFlow .flowSequenceEnd
  else if char == '\x7d' then scan.closeFlow .flowMappingEnd
  else if char == ',' then scan.readFlowEntry
  else if char == '-' && cursor.endsAt 1 then scan.readBlockEntry
  else if char == '?' && (scan.inFlow || cursor.endsAt 1) then scan.readKey
  else if char == ':' && (scan.inFlow || cursor.endsAt 1) then scan.readValue
  else if char == '*' then scan.readName .alias
  else if char == '&' then scan.readName .anchor
  else if char == '!' then scan.readTagToken
  else if char == '|' && !scan.inFlow then scan.readBlockScalar false
  else if char == '>' && !scan.inFlow then scan.readBlockScalar true
  else if char == '\'' || char == '"' then scan.readQuotedScalar char
  else if scan.beginsPlain char then scan.readPlainScalar
  else none

/-- Read tokens up to the end of the text. -/
def run (steps : Nat) (scan : Scan) : Option (Array Token) :=
  match steps with
  | 0 => none
  | steps + 1 =>
      let scan := scan.toNext (scan.cursor.rest.length + 1)
      let scan := scan.unroll (scan.cursor.column + 1)
      match scan.cursor.peek? with
      | some char => do run steps (← scan.readToken char)
      | none => do return (← scan.leaveBlocks).tokens

end Scan

/-- The tokens of a text, if it has no errors. -/
def Token.ofText? (text : String) : Option (List Token) :=
  let chars := text.toList
  if chars.all isAllowed then
    (Scan.ofText chars |>.run (chars.length + 1)).map Array.toList
  else none

end GodotSdk.Yaml
