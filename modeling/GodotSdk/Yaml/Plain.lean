import GodotSdk.Number.Binary64
import GodotSdk.Yaml.Scalar

/-!
# Meaning of plain scalars

A plain scalar stands for nothing, a truth value or a number if it looks like one, and
for its text otherwise.
-/

namespace GodotSdk.Yaml

/-- What a plain scalar stands for. Integers beyond 64 bits are kept apart from others,
and a word is its text. -/
inductive Plain
  | nothing
  | bool (value : Bool)
  | int (value : Int)
  | wideInt (value : Int)
  | float (value : Binary64)
  | infinite (negative : Bool)
  | notANumber
  | word
deriving DecidableEq, Repr

namespace Plain

/-- Whether a text is a word for nothing. -/
def isNothing (text : String) : Bool :=
  text == "~" || text == "null" || text == "Null" || text == "NULL"

/-- The truth value that a text denotes. -/
def bool? (text : String) : Option Bool :=
  if text == "true" || text == "True" || text == "TRUE" then some true
  else if text == "false" || text == "False" || text == "FALSE" then some false
  else none

/-! ## Integers -/

/-- The value of a digit in a base of at most sixteen. -/
def digit? (base : Nat) (char : Char) : Option Nat :=
  (hexDigit? char).filter (· < base)

/-- The number that digits denote, of which there must be one. -/
def magnitude? (base : Nat) (digits : List Char) : Option Nat :=
  if digits.isEmpty then none
  else digits.foldlM (fun number char =>
    do return number * base + (← digit? base char)) 0

/-- The text without a plus sign in front. -/
def withoutPlus : List Char → List Char
  | '+' :: rest => rest
  | text => text

/-- The text without a sign in front. -/
def withoutSign : List Char → List Char
  | '+' :: rest | '-' :: rest => rest
  | text => text

/-- Whether a text is a decimal number with a leading zero, which is no number at
all. -/
def hasLeadingZero (text : List Char) : Bool :=
  match withoutSign text with
  | '0' :: next :: rest => (next :: rest).all Char.isDigit
  | _ => false

/-- The number that an unsigned text denotes, in a base that its first two characters
tell. -/
def based? : List Char → Option Nat
  | '0' :: 'x' :: rest => magnitude? 16 rest
  | '0' :: 'o' :: rest => magnitude? 8 rest
  | '0' :: 'b' :: rest => magnitude? 2 rest
  | text => magnitude? 10 text

/-- A number below a limit, with or without a plus sign. -/
def natural? (limit : Nat) (text : List Char) : Option Nat :=
  if hasLeadingZero text then none
  else (based? (withoutPlus text)).filter (· < limit)

/-- A number with a minus sign, whose magnitude is at most a limit. -/
def negative? (limit : Nat) (text : List Char) : Option Int :=
  match text with
  | '-' :: rest =>
      if hasLeadingZero rest then none
      else ((based? rest).filter (· ≤ limit)).map fun value => -(value : Int)
  | _ => none

/-- A signed number of 64 bits. -/
def int64? (text : List Char) : Option Int64 :=
  ((natural? (Nat.pow 2 63) text).map Int64.ofNat) <|>
    ((negative? (Nat.pow 2 63) text).map Int64.ofInt)

/-- The integer that a text denotes, of up to 128 bits. -/
def integer? (text : List Char) : Option Plain :=
  ((natural? UInt64.size text).map fun value => Plain.int value)
    <|> ((negative? (Nat.pow 2 63) text).map Plain.int)
    <|> ((natural? (Nat.pow 2 128) text).map fun value => Plain.wideInt value)
    <|> ((negative? (Nat.pow 2 127) text).map Plain.wideInt)

/-! ## Floats -/

/-- The exponent of a decimal number, up to the end of the text. -/
def exponent? : List Char → Option Int
  | [] => some 0
  | 'e' :: rest | 'E' :: rest =>
      (magnitude? 10 (withoutSign rest)).map fun value =>
        if rest.head? = some '-' then -(value : Int) else value
  | _ => none

/-- The double nearest to a decimal number, if the text is one and the double is
finite. -/
def decimal? (text : List Char) : Option Binary64 := do
  let unsigned := withoutSign text
  let whole := unsigned.takeWhile Char.isDigit
  let rest := unsigned.drop whole.length
  let fraction := match rest with
    | '.' :: rest => rest.takeWhile Char.isDigit
    | _ => []
  let rest := if rest.head? = some '.' then rest.drop (1 + fraction.length) else rest
  let digits ← magnitude? 10 (whole ++ fraction)
  let exponent ← exponent? rest
  Binary64.ofDecimal (text.head? = some '-') digits (exponent - fraction.length)

/-- The float that a text denotes. -/
def float? (text : List Char) : Option Plain :=
  let word := String.ofList text
  let unsigned := String.ofList (withoutPlus text)
  if unsigned == ".inf" || unsigned == ".Inf" || unsigned == ".INF" then
    some (.infinite false)
  else if word == "-.inf" || word == "-.Inf" || word == "-.INF" then
    some (.infinite true)
  else if word == ".nan" || word == ".NaN" || word == ".NAN" then some .notANumber
  else (decimal? text).map .float

/-- What a plain scalar stands for. -/
def ofText (text : String) : Plain :=
  let chars := text.toList
  if text.isEmpty || isNothing text then .nothing
  else
    match bool? text with
    | some value => .bool value
    | none =>
        match integer? chars with
        | some value => value
        | none =>
            if hasLeadingZero chars then .word else (float? chars).getD .word

end Plain

end GodotSdk.Yaml
