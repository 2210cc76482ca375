import GodotSdk.Text.Blank
import GodotSdk.Time.Timestamp

/-!
# Points in time as text

The forms in which descriptions write a point in time, and the one form in which it is
written again. A reader of a part of the text gives its value and the text after it.
-/

namespace GodotSdk.Timestamp

open GodotSdk.Text (isBlank trim trimStart)

/-- The number that a list of digits denotes. -/
def digitsValue (digits : List Char) : Nat :=
  digits.foldl (fun number digit => number * 10 + (digit.toNat - '0'.toNat)) 0

/-- Read at least `least` and at most `most` digits. -/
def readDigits (least most : Nat) (text : List Char) : Option (Nat × List Char) :=
  let digits := (text.take most).takeWhile Char.isDigit
  if digits.length < least then none
    else some (digitsValue digits, text.drop digits.length)

/-- Read one given character. -/
def readChar (char : Char) : List Char → Option (List Char)
  | found :: rest => if found = char then some rest else none
  | [] => none

/-- Read the digits of a fraction of a second after its point, of which nine count. -/
def readFraction (text : List Char) : Option (Nat × List Char) :=
  let digits := text.takeWhile Char.isDigit
  if digits.isEmpty then none
  else
    let counted := digits.take 9
    some (digitsValue counted * Nat.pow 10 (9 - counted.length),
      text.drop digits.length)

/-- Read a fraction of a second, if there is one. -/
def readNanos : List Char → Option (Nat × List Char)
  | '.' :: rest => readFraction rest
  | text => some (0, text)

/-- A point in time from the fields of a date and a clock. The sixtieth second is a leap
second. -/
def ofFields? (year : Int) (month day hour minute second nano : Nat) :
    Option Timestamp := do
  if 23 < hour || 59 < minute || 60 < second then none
  let date ← Date.of? year month day
  if second = 60 then of? date (hour * 3600 + minute * 60 + 59) (nano + 1000000000)
  else of? date (hour * 3600 + minute * 60 + second) nano

/-- Read how many minutes a clock is ahead of UTC. -/
def readOffset : List Char → Option (Int × List Char)
  | 'Z' :: rest | 'z' :: rest => some (0, rest)
  | sign :: rest => do
      if sign != '+' && sign != '-' && sign != '−' then none
      let (hours, rest) ← readDigits 2 2 rest
      let rest ← readChar ':' rest
      let (minutes, rest) ← readDigits 2 2 rest
      if 23 < hours || 59 < minutes then none
      let ahead : Int := hours * 60 + minutes
      return (if sign = '+' then ahead else -ahead, rest)
  | [] => none

/-- A point in time with an offset, by RFC 3339: fields of fixed length, a `T` or a
space between date and time, and seconds. -/
def ofInternet? (text : List Char) : Option Timestamp := do
  let (year, rest) ← readDigits 4 4 text
  let rest ← readChar '-' rest
  let (month, rest) ← readDigits 2 2 rest
  let rest ← readChar '-' rest
  let (day, rest) ← readDigits 2 2 rest
  let rest ← match rest with
    | 'T' :: rest | 't' :: rest | ' ' :: rest => some rest
    | _ => none
  let (hour, rest) ← readDigits 2 2 rest
  let rest ← readChar ':' rest
  let (minute, rest) ← readDigits 2 2 rest
  let rest ← readChar ':' rest
  let (second, rest) ← readDigits 2 2 rest
  let (nano, rest) ← readNanos rest
  let (minutes, rest) ← readOffset rest
  if !rest.isEmpty then none
  (← ofFields? year month day hour minute second nano).fromOffset? minutes

/-- Read a year: up to four digits, or any number of them after a sign. Blanks may come
first. -/
def readYear (text : List Char) : Option (Int × List Char) :=
  match trimStart text with
  | '-' :: rest =>
      (readDigits 1 rest.length rest).map fun (year, rest) => (-(year : Int), rest)
  | '+' :: rest =>
      (readDigits 1 rest.length rest).map fun (year, rest) => ((year : Int), rest)
  | rest => (readDigits 1 4 rest).map fun (year, rest) => ((year : Int), rest)

/-- Read a number of one or two digits, before which blanks may come. -/
def readShort (text : List Char) : Option (Nat × List Char) :=
  readDigits 1 2 (trimStart text)

/-- Read a date. -/
def readDate (text : List Char) : Option (Int × Nat × Nat × List Char) := do
  let (year, rest) ← readYear text
  let rest ← readChar '-' rest
  let (month, rest) ← readShort rest
  let rest ← readChar '-' rest
  let (day, rest) ← readShort rest
  return (year, month, day, rest)

/-- Read a time of the day up to the end of the text. -/
def readClock (text : List Char) : Option (Nat × Nat × Nat × Nat) := do
  let (hour, rest) ← readShort text
  let rest ← readChar ':' rest
  let (minute, rest) ← readShort rest
  let rest ← readChar ':' rest
  let (second, rest) ← readShort rest
  let (nano, rest) ← readNanos rest
  if rest.isEmpty then return (hour, minute, second, nano) else none

/-- A point in time without an offset, whose date and time are divided by what `divide`
reads. -/
def ofLocal? (divide : List Char → Option (List Char)) (text : List Char) :
    Option Timestamp := do
  let (year, month, day, rest) ← readDate text
  let (hour, minute, second, nano) ← readClock (← divide rest)
  ofFields? year month day hour minute second nano

/-- The beginning of a day. -/
def ofDay? (text : List Char) : Option Timestamp := do
  let (year, month, day, rest) ← readDate text
  if rest.isEmpty then ofFields? year month day 0 0 0 0 else none

/-- The point in time that a text denotes: with an offset, without one as UTC, or as a
bare date. -/
def ofText? (text : String) : Option Timestamp :=
  let text := trim text.toList
  ofInternet? text
    <|> ofLocal? (readChar 'T') text
    <|> ofLocal? (some ∘ trimStart) text
    <|> ofDay? text

/-- A number with leading zeros up to `width` digits. -/
def padded (width number : Nat) : List Char :=
  let digits := Nat.toDigits 10 number
  List.replicate (width - digits.length) '0' ++ digits

/-- A year: four digits, or a sign and at least four where four do not suffice. -/
def yearChars (year : Int) : List Char :=
  if 0 ≤ year && year ≤ 9999 then padded 4 year.toNat
  else (if year < 0 then '-' else '+') :: padded 4 year.natAbs

/-- A fraction of a second in three, six or nine digits, whichever suffices, and nothing
for a whole second. -/
def nanoChars (nano : Nat) : List Char :=
  if nano = 0 then []
  else if nano % 1000000 = 0 then '.' :: padded 3 (nano / 1000000)
  else if nano % 1000 = 0 then '.' :: padded 6 (nano / 1000)
  else '.' :: padded 9 nano

/-- The text of a point in time. -/
def render (time : Timestamp) : String :=
  let leap := 1000000000 ≤ time.nano
  let second := time.second % 60 + if leap then 1 else 0
  let nano := if leap then time.nano - 1000000000 else time.nano
  String.ofList
    (yearChars time.date.year ++ '-' :: padded 2 time.date.month ++
      '-' :: padded 2 time.date.day
      ++ 'T' :: padded 2 (time.second / 3600) ++ ':' :: padded 2 (time.second / 60 % 60)
      ++ ':' :: padded 2 second ++ nanoChars nano ++ ['Z'])

end GodotSdk.Timestamp
