import GodotSdk.Number.Binary64
import GodotSdk.Time.Timestamp
import GodotSdk.Toml.Value

/-!
# Scalars in TOML texts

How texts, numbers, points in time and truth values are written. A reader gives a value
and the text after it.
-/

namespace GodotSdk.Toml

/-- Characters that may stand in a comment or a text as they are: tabs, and all but
control characters. -/
def isPrintable (char : Char) : Bool :=
  char == '\t' || (' ' ≤ char && char != '\x7f')

def isBlank (char : Char) : Bool :=
  char == ' ' || char == '\t'

/-- The text after leading spaces and tabs. -/
def skipBlanks (text : List Char) : List Char :=
  text.dropWhile isBlank

/-- The text after a line break, if there is one. -/
def skipBreak? : List Char → Option (List Char)
  | '\n' :: rest => some rest
  | '\r' :: '\n' :: rest => some rest
  | _ => none

/-! ## Texts -/

def hexDigit? (char : Char) : Option Nat :=
  if '0' ≤ char && char ≤ '9' then some (char.toNat - '0'.toNat)
  else if 'a' ≤ char && char ≤ 'f' then some (char.toNat - 'a'.toNat + 10)
  else if 'A' ≤ char && char ≤ 'F' then some (char.toNat - 'A'.toNat + 10)
  else none

/-- Read a character by its code point in a given count of hexadecimal digits. -/
def readCode (count : Nat) (text : List Char) : Option (Char × List Char) := do
  if text.length < count then none
  let code ← (text.take count).foldlM (fun number char =>
      do return number * 16 + (← hexDigit? char)) 0
  if code.isValidChar then some (Char.ofNat code, text.drop count) else none

/-- Read an escape after its backslash. -/
def readEscape : List Char → Option (Char × List Char)
  | 'b' :: rest => some ('\x08', rest)
  | 't' :: rest => some ('\t', rest)
  | 'n' :: rest => some ('\n', rest)
  | 'f' :: rest => some ('\x0c', rest)
  | 'r' :: rest => some ('\r', rest)
  | 'e' :: rest => some ('\x1b', rest)
  | '"' :: rest => some ('"', rest)
  | '\\' :: rest => some ('\\', rest)
  | 'x' :: rest => readCode 2 rest
  | 'u' :: rest => readCode 4 rest
  | 'U' :: rest => readCode 8 rest
  | _ => none

/-- Read a text on one line after its opening quote. Only double quotes allow
escapes. -/
def readLine (steps : Nat) (quote : Char) (reversed : List Char) (text : List Char) :
    Option (String × List Char) :=
  match steps, text with
  | steps + 1, char :: rest =>
      if char == quote then some (String.ofList reversed.reverse, rest)
      else if quote == '"' && char == '\\' then do
        let (char, rest) ← readEscape rest
        readLine steps quote (char :: reversed) rest
      else if isPrintable char then readLine steps quote (char :: reversed) rest
      else none
  | _, _ => none

/-- The text after blanks and line breaks. -/
def skipSpace (steps : Nat) (text : List Char) : List Char :=
  match steps with
  | 0 => text
  | steps + 1 =>
      let rest := skipBlanks text
      match skipBreak? rest with
      | some rest => skipSpace steps rest
      | none => rest

/-- Read a text of several lines after its opening quotes. Three quotes end it, before
which up to two more may stand. A backslash at the end of a line joins the text across
all space. -/
def readLines (steps : Nat) (quote : Char) (reversed : List Char) (text : List Char) :
    Option (String × List Char) :=
  match steps, text with
  | steps + 1, char :: rest =>
      let quotes := (text.takeWhile (· == quote)).length
      if 3 ≤ quotes then
        let kept := min 2 (quotes - 3)
        some (String.ofList (List.replicate kept quote ++ reversed).reverse,
          text.drop (3 + kept))
      else if quote == '"' && char == '\\' then
        match skipBreak? (skipBlanks rest) with
        | some rest => readLines steps quote reversed (skipSpace (rest.length + 1) rest)
        | none => do
            let (char, rest) ← readEscape rest
            readLines steps quote (char :: reversed) rest
      else
        match skipBreak? text with
        | some after =>
            let ends := text.take (text.length - after.length)
            readLines steps quote (ends.reverse ++ reversed) after
        | none =>
            if isPrintable char then
              readLines steps quote (char :: reversed) rest else none
  | _, _ => none

/-- Read a text on one line, in quotes of either kind. -/
def readQuoted : List Char → Option (String × List Char)
  | '"' :: rest => readLine (rest.length + 1) '"' [] rest
  | '\'' :: rest => readLine (rest.length + 1) '\'' [] rest
  | _ => none

/-- Read a text in quotes of any kind. A line break right after three quotes does not
count. -/
def readText (text : List Char) : Option (String × List Char) :=
  match text with
  | '"' :: '"' :: '"' :: rest =>
      let rest := (skipBreak? rest).getD rest
      readLines (rest.length + 1) '"' [] rest
  | '\'' :: '\'' :: '\'' :: rest =>
      let rest := (skipBreak? rest).getD rest
      readLines (rest.length + 1) '\'' [] rest
  | _ => readQuoted text

/-! ## Numbers -/

/-- The digits of a number in a base, between any two of which one underscore may
stand. -/
def plainDigits? (base : Nat) : List Char → Option (List Nat)
  | [] => none
  | char :: rest => do
      let digit ← (hexDigit? char).filter (· < base)
      match rest with
      | [] => return [digit]
      | '_' :: rest => return digit :: (← plainDigits? base rest)
      | rest => return digit :: (← plainDigits? base rest)

/-- The number that digits denote. -/
def digitsValue (base : Nat) (digits : List Nat) : Nat :=
  digits.foldl (fun number digit => number * base + digit) 0

/-- Decimal digits without a leading zero. -/
def decimal? (text : List Char) : Option (List Nat) := do
  let digits ← plainDigits? 10 text
  if text.head? = some '0' && 1 < digits.length then none
  return digits

/-- The text without a sign in front. -/
def withoutSign : List Char → List Char
  | '+' :: rest | '-' :: rest => rest
  | text => text

/-- The integer that a word denotes. Only decimal numbers may have a sign. -/
def integer? (word : List Char) : Option Int :=
  match word with
  | '0' :: 'x' :: rest => (plainDigits? 16 rest).map fun digits => digitsValue 16 digits
  | '0' :: 'o' :: rest => (plainDigits? 8 rest).map fun digits => digitsValue 8 digits
  | '0' :: 'b' :: rest => (plainDigits? 2 rest).map fun digits => digitsValue 2 digits
  | word =>
      (decimal? (withoutSign word)).map fun digits =>
        let value := digitsValue 10 digits
        if word.head? = some '-' then -(value : Int) else value

/-- The exponent of a float, up to the end of the word. -/
def exponent? : List Char → Option Int
  | [] => some 0
  | 'e' :: rest | 'E' :: rest =>
      (plainDigits? 10 (withoutSign rest)).map fun digits =>
        let value := digitsValue 10 digits
        if rest.head? = some '-' then -(value : Int) else value
  | _ => none

/-- Whether a word denotes a float, and whether that is in range. -/
def float? (word : List Char) : Option Bool := do
  let unsigned := withoutSign word
  if unsigned == "inf".toList || unsigned == "nan".toList then some true
  else
    let inMantissa (char : Char) : Bool := char != 'e' && char != 'E'
    let mantissa := unsigned.takeWhile inMantissa
    let exponent ← exponent? (unsigned.drop mantissa.length)
    let whole := mantissa.takeWhile (· != '.')
    let digits ← decimal? whole
    let fraction ← match mantissa.drop whole.length with
      | [] => if mantissa.length = unsigned.length then none else some []
      | _ :: rest => plainDigits? 10 rest
    let number := Binary64.ofDecimal false (digitsValue 10 (digits ++ fraction))
      (exponent - fraction.length)
    some number.isSome

/-! ## Points in time -/

/-- Read a number of a fixed count of digits. -/
def readFixed (count : Nat) (text : List Char) : Option (Nat × List Char) :=
  let digits := text.take count
  if digits.length = count && digits.all Char.isDigit then
    some (digitsValue 10 (digits.map fun digit => digit.toNat - '0'.toNat),
      text.drop count)
  else none

/-- Read a given character. -/
def readChar (char : Char) : List Char → Option (List Char)
  | found :: rest => if found = char then some rest else none
  | [] => none

/-- Read a date. -/
def readDate (text : List Char) : Option (List Char) := do
  let (year, rest) ← readFixed 4 text
  let (month, rest) ← readFixed 2 (← readChar '-' rest)
  let (day, rest) ← readFixed 2 (← readChar '-' rest)
  if isDate year month day then some rest else none

/-- Read the fraction of a second, if there is one. -/
def readFraction : List Char → Option (List Char)
  | '.' :: rest =>
      let digits := rest.takeWhile Char.isDigit
      if digits.isEmpty then none else some (rest.drop digits.length)
  | rest => some rest

/-- Read a time of the day. Its seconds may be left out. -/
def readClock (text : List Char) : Option (List Char) := do
  let (hour, rest) ← readFixed 2 text
  let (minute, rest) ← readFixed 2 (← readChar ':' rest)
  if 23 < hour || 59 < minute then none
  match rest with
  | ':' :: rest =>
      let (second, rest) ← readFixed 2 rest
      if 60 < second then none
      readFraction rest
  | rest => some rest

/-- Read how far a clock is off from UTC, if that is given. -/
def readOffset : List Char → Option (List Char)
  | 'Z' :: rest | 'z' :: rest => some rest
  | '+' :: rest | '-' :: rest => do
      let (hour, rest) ← readFixed 2 rest
      let (minute, rest) ← readFixed 2 (← readChar ':' rest)
      if 23 < hour || 59 < minute then none
      some rest
  | rest => some rest

/-- Read a date, a time of the day, or both with or without an offset. -/
def readTime (text : List Char) : Option (List Char) :=
  match readDate text with
  | none => readClock text
  | some ('T' :: rest) | some ('t' :: rest) => readClock rest >>= readOffset
  | some (' ' :: digit :: rest) =>
      if digit.isDigit then readClock (digit :: rest) >>= readOffset
        else some (' ' :: digit :: rest)
  | some rest => some rest

/-! ## Words -/

/-- Characters of numbers, points in time and truth values. -/
def isWordChar (char : Char) : Bool :=
  char.isAlphanum || char == '_' || char == '-' || char == '+' || char == '.' ||
    char == ':'

/-- The value of a word that is no point in time. -/
def wordValue? (word : List Char) : Option Value :=
  if word == "true".toList then some (.bool true)
  else if word == "false".toList then some (.bool false)
  else (integer? word).map .integer <|> (float? word).map .float

/-- Read a scalar that is not in quotes. -/
def readWord (text : List Char) : Option (Value × List Char) :=
  match readTime text with
  | some rest => if rest.head?.any isWordChar then none else some (.time, rest)
  | none =>
      let word := text.takeWhile isWordChar
      (wordValue? word).map fun value => (value, text.drop word.length)

end GodotSdk.Toml
