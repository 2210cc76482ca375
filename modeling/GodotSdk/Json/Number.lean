import GodotSdk.Json.Fault
import GodotSdk.Json.Value

/-!
# Numbers in JSON texts

A number is read as a whole number of 64 bits as long as it has neither a fraction nor
an exponent and fits. Otherwise it becomes a double: as many digits as fit into 64 bits,
converted and then scaled by a power of ten, each step rounded by itself.
-/

namespace GodotSdk.Json

/-- The parts of a number as written: its sign, the digits before and after the point,
and the exponent with its sign. -/
structure NumberText where
  negative : Bool
  whole : List Char
  fraction : Option (List Char)
  exponent : Option (Bool × List Char)

/-- Add leading digits to a number as long as it fits into 64 bits. The result holds the
digits left over. -/
def absorbDigits (number : Nat) : List Char → Nat × List Char
  | [] => (number, [])
  | digit :: rest =>
      let more := number * 10 + (digit.toNat - '0'.toNat)
      if more < UInt64.size then absorbDigits more rest else (number, digit :: rest)

/-- The number that a list of digits denotes. -/
def digitsValue (digits : List Char) : Nat :=
  digits.foldl (fun number digit => number * 10 + (digit.toNat - '0'.toNat)) 0

/-- A power of ten as a double. -/
def powerOfTen (exponent : Nat) : Binary64 :=
  (Binary64.ofDecimal false 1 exponent).getD ⟨false, 0, 0⟩

/-- Scale a double by a power of ten. Powers beyond the range of doubles overflow, or
are divided out in steps, of which the fourth reaches zero in any case. -/
def scaleByTen (steps : Nat) (number : Binary64) (exponent : Int) : Option Binary64 :=
  if exponent.natAbs ≤ 308 then
    if 0 ≤ exponent then number.scaleUp (powerOfTen exponent.natAbs)
    else number.scaleDown (powerOfTen exponent.natAbs)
  else if number.mantissa = 0 then some number
  else if 0 ≤ exponent then none
  else
    match steps with
    | 0 => some ⟨number.negative, 0, 0⟩
    | steps + 1 =>
        (number.scaleDown (powerOfTen 308)).bind fun smaller =>
          scaleByTen steps smaller (exponent + 308)

/-- A double from the digits that fit into 64 bits and a power of ten. -/
def floatOfParts (negative : Bool) (digits : Nat) (exponent : Int) :
    Except Fault Number :=
  match (Binary64.ofRatio negative digits 1).bind (scaleByTen 4 · exponent) with
  | some value => .ok (.float value)
  | none => .error .numberOutOfRange

/-- The number that a text denotes. -/
def NumberText.value (text : NumberText) : Except Fault Number :=
  let (digits, left) := absorbDigits 0 text.whole
  match text.fraction, text.exponent with
  | none, none =>
      if !left.isEmpty then floatOfParts text.negative digits left.length
      else if !text.negative then .ok (.int digits)
      else if digits = 0 || Nat.pow 2 63 < digits then floatOfParts true digits 0
      else .ok (.int (-(digits : Int)))
  | fraction, exponent =>
      let fraction := fraction.getD []
      let (digits, rest) := absorbDigits digits fraction
      let place : Int :=
        (left.length : Int) - ((fraction.length - rest.length : Nat) : Int)
      match exponent with
      | none => floatOfParts text.negative digits place
      | some (down, power) =>
          let power := digitsValue power
          if Nat.pow 2 31 ≤ power then
            if digits ≠ 0 && !down then .error .numberOutOfRange
            else .ok (.float ⟨text.negative, 0, 0⟩)
          else floatOfParts text.negative digits (if down then place - power
            else place + power)

/-- Split off leading digits. -/
def takeDigits (text : List Char) : List Char × List Char :=
  (text.takeWhile Char.isDigit, text.dropWhile Char.isDigit)

/-- A fault in a number: how it is reported where the number is wanted and where it is
skipped. The two differ only at the end of the text. -/
def numberFault (rest : List Char) : Fault × Fault :=
  (if rest.isEmpty then .valueEnd else .invalidNumber, .invalidNumber)

/-- Read the exponent of a number. -/
def readExponent (text : NumberText) (rest : List Char) :
    Except (Fault × Fault) (NumberText × List Char) :=
  let (down, rest) := match rest with
    | '+' :: rest => (false, rest)
    | '-' :: rest => (true, rest)
    | rest => (false, rest)
  let (digits, rest) := takeDigits rest
  if digits.isEmpty then .error (numberFault rest)
  else .ok ({ text with exponent := some (down, digits) }, rest)

/-- Read what may follow the whole part of a number. -/
def readFraction (text : NumberText) (rest : List Char) :
    Except (Fault × Fault) (NumberText × List Char) :=
  match rest with
  | '.' :: rest =>
      let (digits, rest) := takeDigits rest
      if digits.isEmpty then .error (numberFault rest)
      else
        let text := { text with fraction := some digits }
        match rest with
        | 'e' :: rest | 'E' :: rest => readExponent text rest
        | rest => .ok (text, rest)
  | 'e' :: rest | 'E' :: rest => readExponent text rest
  | rest => .ok (text, rest)

/-- Read a number after its sign. The whole part has no leading zeros. -/
def readNumber (negative : Bool) (text : List Char) :
    Except (Fault × Fault) (NumberText × List Char) :=
  let (digits, rest) := takeDigits text
  match digits with
  | [] => .error (numberFault rest)
  | '0' :: _ :: _ => .error (.invalidNumber, .invalidNumber)
  | _ => readFraction ⟨negative, digits, none, none⟩ rest

end GodotSdk.Json
