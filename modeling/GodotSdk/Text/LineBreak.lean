import GodotSdk.Text.LineBreak.Table

/-!
# Line breaking

Where a line of text may be broken, by the Unicode line breaking algorithm without
dictionaries. The rules look at the class of the next character and at what came before
it, apart from spaces and attached marks.
-/

namespace GodotSdk.Text

/-- The class of a character. Hangul syllables with two jamo start each group of
twenty-eight. -/
def lineClass (char : Char) : LineClass :=
  if 0xAC00 ≤ char.toNat && char.toNat ≤ 0xD7A3 then
    if (char.toNat - 0xAC00) % 28 = 0 then .syllableTwo else .syllableThree
  else
    match lineClasses.find? (fun entry => entry.2.contains char) with
    | some (found, _) => found
    | none => .alphabetic

namespace LineClass

/-- Classes that always end a line. -/
def isHard (found : LineClass) : Bool :=
  found matches .mandatory | .carriageReturn | .lineFeed | .nextLine

/-- Letters of scripts that break at spaces. -/
def isLetter (found : LineClass) : Bool :=
  found matches .alphabetic | .hebrew

def isOpening (found : LineClass) : Bool :=
  found matches .opening | .openingWide

def isClosing (found : LineClass) : Bool :=
  found matches .closing | .closingParenthesis

def isPictograph (found : LineClass) : Bool :=
  found matches .ideographic | .reservedPictograph | .emojiBase | .emojiModifier

/-- Jamo and syllables of Korean. -/
def isKorean (found : LineClass) : Bool :=
  found matches .leadingJamo | .vowelJamo | .trailingJamo | .syllableTwo
    | .syllableThree

end LineClass

/-- What line breaking remembers of the text so far: the class of the last character
that is neither a space nor an attached mark, whether spaces follow it, whether a joiner
was last, whether an odd number of regional indicators was last, and whether a Hebrew
letter comes before it. -/
structure BreakState where
  before : LineClass
  spaced : Bool
  joined : Bool
  oddRegionals : Bool
  afterHebrew : Bool

/-- Pairs that hold together, for neighbours without a space between them. -/
def holdsTogether (before next : LineClass) : Bool :=
  match before, next with
  | .symbol, .hebrew => true
  | _, .inseparable => true
  | .beforeNumeric, .numeric | .afterNumeric, .numeric => true
  | .numeric, .afterNumeric | .numeric, .beforeNumeric => true
  | .hyphen, .numeric | .infixSeparator, .numeric | .numeric, .numeric
      | .symbol, .numeric => true
  | .leadingJamo, .leadingJamo | .leadingJamo, .vowelJamo | .leadingJamo, .syllableTwo
  | .leadingJamo, .syllableThree => true
  | .vowelJamo, .vowelJamo | .vowelJamo, .trailingJamo | .syllableTwo, .vowelJamo
  | .syllableTwo, .trailingJamo => true
  | .trailingJamo, .trailingJamo | .syllableThree, .trailingJamo => true
  | .emojiBase, .emojiModifier | .reservedPictograph, .emojiModifier => true
  | _, _ =>
      (before.isLetter &&
        (next matches .numeric | .beforeNumeric | .afterNumeric | .opening))
        || (before.isLetter && next.isLetter)
        || ((before matches .numeric | .beforeNumeric | .afterNumeric | .infixSeparator
              | .closingParenthesis) && next.isLetter)
        || (before == .beforeNumeric && next.isPictograph)
        || (before.isPictograph && next == .afterNumeric)
        || (before.isClosing && (next matches .afterNumeric | .beforeNumeric))
        || ((before matches .afterNumeric | .beforeNumeric) && next.isOpening)
        || (before.isKorean && next == .afterNumeric)
        || (before == .beforeNumeric && next.isKorean)
        || (before == .numeric && next == .opening)
        || (before == .closingParenthesis && next == .numeric)

/-- Whether the line may be broken before a character of class `next` that is not an
attached mark. -/
def BreakState.breaksBefore (state : BreakState) (next : LineClass) : Bool :=
  let before := state.before
  if before == .carriageReturn then next != .lineFeed
  else if before.isHard then true
  else if next.isHard || next == .space || next == .zeroWidthSpace then false
  else if before == .zeroWidthSpace then true
  else if state.joined || next == .wordJoiner then false
  else if !state.spaced && (before == .wordJoiner || before == .glue) then false
  else if next == .glue && !state.spaced && before != .space
      && before != .breakAfter && before != .hyphen then false
  else if next matches .closing | .closingParenthesis | .exclamation | .infixSeparator
    | .symbol then false
  else if before.isOpening then false
  else if before.isClosing && next == .nonstarter then false
  else if before == .breakBoth && next == .breakBoth then false
  else if state.spaced || before == .space then true
  else if next == .quotation || before == .quotation then false
  else if next == .contingent || before == .contingent then true
  else if next matches .breakAfter | .hyphen | .nonstarter then false
  else if before == .breakBefore then false
  else if state.afterHebrew && (before matches .hyphen | .breakAfter) then false
  else if before == .regional && next == .regional then !state.oddRegionals
  else !holdsTogether before next

/-- The state after a character of class `next` that is not an attached mark. -/
def BreakState.push (state : BreakState) (next : LineClass) : BreakState :=
  if next == .space then
    { state with
      before := if state.before.isHard then .space else state.before
      spaced := true
      joined := false }
  else
    { before := next
      spaced := false
      joined := false
      oddRegionals := next == .regional && !(state.before == .regional && !state.spaced
        && state.oddRegionals)
      afterHebrew := state.before == .hebrew && !state.spaced }

/-- Whether a mark attaches to the last character. -/
def BreakState.attaches (state : BreakState) : Bool :=
  !state.spaced && !state.before.isHard && state.before != .space &&
    state.before != .zeroWidthSpace

/-- Whether the line may be broken before the next character, and the state after it. A
mark that attaches to the last character is part of it; any other mark is like a letter.
-/
def BreakState.step (state : BreakState) (found : LineClass) : Bool × BreakState :=
  if found matches .combining | .joiner then
    if state.attaches then (false, { state with joined := found == .joiner })
    else
      (state.breaksBefore .alphabetic,
        { state.push .alphabetic with joined := found == .joiner })
  else (state.breaksBefore found, state.push found)

/-- For each character, whether the line may be broken before it. -/
def BreakState.run (state : BreakState) : List Char → List Bool
  | [] => []
  | char :: rest =>
      let (breaks, state) := state.step (lineClass char)
      breaks :: state.run rest

/-- The state after the first character of a text. -/
def BreakState.start (found : LineClass) : BreakState :=
  let opening : BreakState := ⟨.space, false, false, false, false⟩
  if found matches .combining | .joiner then
    { opening.push .alphabetic with joined := found == .joiner }
  else opening.push found

/-- For each character of a text, whether the line may be broken before it. The first
has nothing before it. -/
def lineBreaks : List Char → List Bool
  | [] => []
  | char :: rest => false :: (BreakState.start (lineClass char)).run rest

end GodotSdk.Text
