/-!
# Binary floating-point numbers

Finite numbers of double precision, as a sign, a whole number of at most 53 bits and a
power of two. Arithmetic is exact on whole numbers and rounds once, to the nearest
number and to an even one from halfway.
-/

namespace GodotSdk

/-- The number `mantissa * 2 ^ exponent`, negated if `negative`. -/
structure Binary64 where
  negative : Bool
  mantissa : Nat
  exponent : Int
deriving DecidableEq, Repr

namespace Binary64

/-- The quotient of two numbers, rounded to the nearest whole number and from halfway to
an even one. -/
def roundDiv (numerator denominator : Nat) : Nat :=
  let quotient := numerator / denominator
  let remainder := numerator % denominator
  if 2 * remainder > denominator ||
    (2 * remainder = denominator && quotient % 2 = 1) then quotient + 1
  else quotient

/-- `numerator / (denominator * 2 ^ exponent)`, rounded. -/
def roundScaled (numerator denominator : Nat) (exponent : Int) : Nat :=
  match exponent with
  | .ofNat power => roundDiv numerator (denominator * Nat.pow 2 power)
  | .negSucc power => roundDiv (numerator * Nat.pow 2 (power + 1)) denominator

/-- Whether `numerator / denominator` is at least `2 ^ exponent`. -/
def reaches (numerator denominator : Nat) (exponent : Int) : Bool :=
  match exponent with
  | .ofNat power => denominator * Nat.pow 2 power ≤ numerator
  | .negSucc power => denominator ≤ numerator * Nat.pow 2 (power + 1)

/-- The double nearest to a quotient, or `none` if that is not finite. -/
def ofRatio (negative : Bool) (numerator denominator : Nat) : Option Binary64 :=
  if numerator = 0 then some ⟨negative, 0, 0⟩
  else
    let guess : Int := (numerator.log2 : Int) - (denominator.log2 : Int)
    let top := if reaches numerator denominator guess then guess else guess - 1
    let exponent := max (top - 52) (-1074)
    let mantissa := roundScaled numerator denominator exponent
    let (mantissa, exponent) :=
      if mantissa = Nat.pow 2 53 then (Nat.pow 2 52, exponent + 1)
        else (mantissa, exponent)
    if exponent > 971 then none else some ⟨negative, mantissa, exponent⟩

/-- The number as a quotient of whole numbers, without its sign. -/
def ratio (number : Binary64) : Nat × Nat :=
  match number.exponent with
  | .ofNat power => (number.mantissa * Nat.pow 2 power, 1)
  | .negSucc power => (number.mantissa, Nat.pow 2 (power + 1))

/-- The product of two magnitudes with the sign of the first. -/
def scaleUp (number factor : Binary64) : Option Binary64 :=
  let (a, b) := number.ratio
  let (c, d) := factor.ratio
  ofRatio number.negative (a * c) (b * d)

/-- The quotient of two magnitudes with the sign of the first. -/
def scaleDown (number divisor : Binary64) : Option Binary64 :=
  let (a, b) := number.ratio
  let (c, d) := divisor.ratio
  ofRatio number.negative (a * d) (b * c)

/-- The double nearest to `digits * 10 ^ exponent`, or `none` if that is not finite.
Exponents far out of range are decided by the number of digits alone. -/
def ofDecimal (negative : Bool) (digits : Nat) (exponent : Int) : Option Binary64 :=
  let places : Int := (Nat.toDigits 10 digits).length + exponent
  if digits = 0 then some ⟨negative, 0, 0⟩
  else if places > 400 then none
  else if places < -400 then some ⟨negative, 0, 0⟩
  else
    match exponent with
    | .ofNat power => ofRatio negative (digits * Nat.pow 10 power) 1
    | .negSucc power => ofRatio negative digits (Nat.pow 10 (power + 1))

/-- The power of ten of the first digit of a quotient below one, searched from `guess`
on. -/
def leadingPlaceBelow (numerator denominator : Nat) : Nat → Nat → Nat
  | 0, guess => guess
  | fuel + 1, guess =>
      if denominator ≤ numerator * Nat.pow 10 guess then guess
      else leadingPlaceBelow numerator denominator fuel (guess + 1)

/-- The power of ten of the first digit of a positive quotient. -/
def leadingPlace (numerator denominator : Nat) : Int :=
  if denominator ≤ numerator then
    ((Nat.toDigits 10 (numerator / denominator)).length : Int) - 1
  else -(leadingPlaceBelow numerator denominator 400 1 : Int)

/-- Whether the decimal `digits * 10 ^ place` reads back as the number, and its distance
from the number as a whole multiple of a unit that is the same for all `digits`. -/
def reading (number : Binary64) (digits : Nat) (place : Int) : Option Nat :=
  let narrow := number.mantissa = Nat.pow 2 52 && number.exponent > -1074
  -- In units of `2 ^ (exponent - 2)`, the numbers that round to this one lie between
  -- these bounds.
  let value := 4 * number.mantissa
  let low := if narrow then value - 1 else value - 2
  let high := value + 2
  let (tenUp, tenDown) : Nat × Nat := match place with
    | .ofNat power => (Nat.pow 10 power, 1)
    | .negSucc power => (1, Nat.pow 10 (power + 1))
  let (twoUp, twoDown) : Nat × Nat := match number.exponent - 2 with
    | .ofNat power => (Nat.pow 2 power, 1)
    | .negSucc power => (1, Nat.pow 2 (power + 1))
  let decimal := digits * tenUp * twoDown
  let scaled (bound : Nat) := bound * twoUp * tenDown
  let inside :=
    if number.mantissa % 2 = 0 then scaled low ≤ decimal && decimal ≤ scaled high
    else scaled low < decimal && decimal < scaled high
  if inside then some (if decimal ≤ scaled value then scaled value - decimal
    else decimal - scaled value)
  else none

/-- Divide out factors of ten. -/
def stripZeros : Nat → Nat → Int → Nat × Int
  | 0, digits, place => (digits, place)
  | fuel + 1, digits, place =>
      if digits % 10 = 0 then stripZeros fuel (digits / 10) (place + 1)
        else (digits, place)

/-- The shortest decimal of at least `17 - fuel` digits that reads back as the number:
its digits and the power of ten of the last one. Of two equally short ones it is the
nearer. -/
def shortestFrom (number : Binary64) (lead : Int) : Nat → Nat → Nat × Int
  | 0, _ => (0, 0)
  | fuel + 1, count =>
      let place := lead - (count : Int) + 1
      let (numerator, denominator) := number.ratio
      let below := match place with
        | .ofNat power => numerator / (denominator * Nat.pow 10 power)
        | .negSucc power => numerator * Nat.pow 10 (power + 1) / denominator
      match number.reading below place, number.reading (below + 1) place with
      | some under, some above =>
          stripZeros 17 (if under ≤ above then below else below + 1) place
      | some _, none => stripZeros 17 below place
      | none, some _ => stripZeros 17 (below + 1) place
      | none, none => shortestFrom number lead fuel (count + 1)

/-- The shortest decimal that reads back as the number: its digits and the power of ten
of the last one. -/
def shortest (number : Binary64) : Nat × Int :=
  if number.mantissa = 0 then (0, 0)
  else
    let (numerator, denominator) := number.ratio
    number.shortestFrom (leadingPlace numerator denominator) 17 1

/-- The text of a number: the magnitudes written with a point lie between the powers of
ten `low` and `high`, all others have an exponent. -/
def render (number : Binary64) (low high : Int) : String :=
  let sign := if number.negative then "-" else ""
  if number.mantissa = 0 then sign ++ "0.0"
  else
    let (value, place) := number.shortest
    let digits := Nat.toDigits 10 value
    let point : Int := digits.length + place
    let zeros (count : Int) := List.replicate count.toNat '0'
    let body : List Char :=
      if 0 ≤ place && point ≤ high then digits ++ zeros place ++ ['.', '0']
      else if 0 < point && point ≤ high then
        digits.take point.toNat ++ '.' :: digits.drop point.toNat
      else if low < point && point ≤ 0 then ['0', '.'] ++ zeros (-point) ++ digits
      else
        let exponent := (toString (point - 1)).toList
        match digits with
        | [] => []
        | [first] => first :: 'e' :: exponent
        | first :: rest => first :: '.' :: rest ++ 'e' :: exponent
    sign ++ String.ofList body

end Binary64

end GodotSdk
