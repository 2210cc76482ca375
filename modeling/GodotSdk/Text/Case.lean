import GodotSdk.Text.Case.Table

/-!
# Case folding and lower case

Names that differ only in case have the same full case folding. Folding works character
by character, so the folding of a concatenation is the concatenation of the foldings.
The lower case of a character is fixed but for the capital sigma, which has a second
form at the end of a word.
-/

namespace GodotSdk.Text

/-! ## Case folding -/

/-- The entry of an ascending list for a code point. -/
def findAscending : List (Nat × List Nat) → Nat → Option (List Nat)
  | [], _ => none
  | (code, image) :: rest, wanted =>
      if wanted < code then none
      else if wanted = code then some image
      else findAscending rest wanted

/-- The full case folding of a character. -/
def foldChar (char : Char) : List Char :=
  match findAscending foldExpansions char.toNat with
  | some image => image.map Char.ofNat
  | none =>
      match mapByRuns foldRuns char.toNat with
      | some code => [Char.ofNat code]
      | none => [char]

/-- The full case folding of a text. -/
def fold (text : List Char) : List Char :=
  text.flatMap foldChar

@[simp] theorem fold_append (first second : List Char) :
    fold (first ++ second) = fold first ++ fold second := by
  simp [fold]

/-- Whether two names are equal up to case. -/
def equalFold (left right : String) : Bool :=
  fold left.toList == fold right.toList

/-! ## Lower case -/

/-- The lower case of a character by itself. A capital I with a dot keeps the dot as a
combining mark. -/
def lowerChar (char : Char) : List Char :=
  if char = 'İ' then ['i', '\u0307']
  else
    match mapByRuns lowerRuns char.toNat with
    | some code => [Char.ofNat code]
    | none => [char]

/-- Whether the first character that is not `Case_Ignorable` is `Cased`. -/
def meetsCased (text : List Char) : Bool :=
  match text.dropWhile caseIgnorable.contains with
  | [] => false
  | char :: _ => cased.contains char

/-- The lower case of a text that follows the characters in `reversed`. A capital sigma
is final if a cased character comes before it and none after it, apart from characters
that case ignores. -/
def lowerAfter (reversed : List Char) : List Char → List Char
  | [] => []
  | char :: rest =>
      (if char = 'Σ' then
        [if meetsCased reversed && !meetsCased rest then 'ς' else 'σ']
      else lowerChar char) ++ lowerAfter (char :: reversed) rest

/-- The lower case of a name. -/
def lowercase (name : String) : String :=
  String.ofList (lowerAfter [] name.toList)

end GodotSdk.Text
