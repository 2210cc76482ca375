import GodotSdk.Script.Code

/-!
# String literals read back

A string literal begins with a quote and goes up to the first quote that is not escaped.
Quoting escapes every quote and every backslash of a text, so a literal ends where its
text does, whatever the text looks like and whatever follows.
-/

namespace GodotSdk.Script

/-- The character that an escape stands for, by the letter after its backslash. -/
def escaped? : Char → Option Char
  | '"' => some '"'
  | '\\' => some '\\'
  | 'n' => some '\n'
  | 'r' => some '\r'
  | 't' => some '\t'
  | _ => none

/-- Read the characters of a literal after its opening quote, up to its closing
quote. -/
def readQuoted : List Char → Option (List Char × List Char)
  | [] => none
  | '"' :: rest => some ([], rest)
  | ['\\'] => none
  | '\\' :: letter :: rest => do
      let char ← escaped? letter
      let (chars, after) ← readQuoted rest
      return (char :: chars, after)
  | char :: rest => do
      let (chars, after) ← readQuoted rest
      return (char :: chars, after)

/-- Read the string literal at the beginning of a text. The result is what it stands for
and the text after it. -/
def readLiteral (text : String) : Option (String × String) :=
  match text.toList with
  | '"' :: rest =>
      (readQuoted rest).map fun (chars, after) =>
        (String.ofList chars, String.ofList after)
  | _ => none

/-- A character that stands for itself is read as itself. -/
theorem readQuoted_plain {char : Char} (quote : char ≠ '"') (escape : char ≠ '\\')
    (rest : List Char) :
    readQuoted (char :: rest) = (readQuoted rest).map fun (chars, after) =>
      (char :: chars, after) := by
  rw [readQuoted]
  · cases readQuoted rest <;> rfl
  · exact fun same => quote same
  · rintro same -
    exact escape same
  · rintro _ _ same -
    exact escape same

theorem readQuoted_escape {letter char : Char} (stands : escaped? letter = some char)
    (rest : List Char) :
    readQuoted ('\\' :: letter :: rest) = (readQuoted rest).map fun (chars, after) =>
      (char :: chars, after) := by
  rw [readQuoted, stands]
  cases readQuoted rest <;> rfl

/-- One character of a text is read back from what is written for it. -/
theorem readQuoted_quoteChar (char : Char) (rest : List Char) :
    readQuoted (quoteChar char ++ rest) = (readQuoted rest).map fun (chars, after) =>
      (char :: chars, after) := by
  unfold quoteChar
  split
  case h_1 | h_2 | h_3 | h_4 | h_5 => exact readQuoted_escape rfl rest
  case h_6 quote escape _ _ _ => exact readQuoted_plain quote escape rest

theorem readQuoted_flatMap (chars rest : List Char) :
    readQuoted (chars.flatMap quoteChar ++ '"' :: rest) = some (chars, rest) := by
  induction chars with
  | nil => rfl
  | cons char chars ih =>
      rw [List.flatMap_cons, List.append_assoc, readQuoted_quoteChar, ih]
      rfl

/-- A quoted text is read back as it is, and nothing of what follows it is read. -/
theorem readLiteral_quote (text rest : String) :
    readLiteral (quote text ++ rest) = some (text, rest) := by
  have chars : (quote text ++ rest).toList =
      '"' :: (text.toList.flatMap quoteChar ++ '"' :: rest.toList) := by
    simp [quote, String.toList_append]
  simp only [readLiteral, chars, readQuoted_flatMap, Option.map_some,
    String.ofList_toList]

theorem quote_injective : Function.Injective quote := by
  intro left right same
  have read := readLiteral_quote left ""
  rw [same, readLiteral_quote] at read
  exact (Prod.mk.inj (Option.some.inj read)).1.symm

/-- The characters that a literal writes with letters only. -/
def lettered : List Char :=
  ['\n', '\r', '\t']

theorem not_mem_quoteChar {char : Char} (member : char ∈ lettered) (other : Char) :
    char ∉ quoteChar other := by
  unfold quoteChar
  split
  case h_1 | h_2 | h_3 | h_4 | h_5 =>
    have apart : ∀ char ∈ lettered, char ≠ '\\' ∧ char ≠ '"' ∧ char ≠ 'n' ∧ char ≠ 'r' ∧
        char ≠ 't' := by
      simp [lettered]
    have different := apart char member
    simp [different]
  case h_6 _ _ feed carriage tab =>
    rw [List.mem_singleton]
    rintro rfl
    simp only [lettered, List.mem_cons, List.not_mem_nil, or_false] at member
    rcases member with isFeed | isReturn | isTab
    · exact feed isFeed
    · exact carriage isReturn
    · exact tab isTab

theorem not_mem_quote {char : Char} (member : char ∈ lettered) (text : String) :
    char ∉ (quote text).toList := by
  have apart : char ≠ '"' := by
    rintro rfl
    exact absurd member (by decide)
  rw [quote, String.toList_ofList]
  simp only [List.mem_cons, List.mem_append, List.mem_flatMap, List.not_mem_nil,
    or_false, apart, false_or, not_exists, not_and]
  exact fun other _ => not_mem_quoteChar member other

end GodotSdk.Script
