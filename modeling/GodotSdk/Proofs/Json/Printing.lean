import GodotSdk.Json.Draft
import Mathlib.Data.List.TakeWhile

/-!
# Printed JSON values

The compact text of a value whose numbers are whole is read back as a draft of this
value without any fault, with the text after it left over. Strings, numbers and lists
are read back each by itself, so a value is by its constructors.
-/

namespace GodotSdk.Json

/-! ## Strings -/

/-- A string of which some characters were read without a fault. -/
def TextState.holding (reversed : List Char) : TextState :=
  ⟨.ok reversed, none⟩

@[simp] theorem TextState.push_holding (reversed : List Char) (char : Char) :
    (holding reversed).push char = holding (char :: reversed) :=
  rfl

theorem hexNumber?_hexByte {code : Nat} (small : code < 32) :
    hexNumber? (['0', '0'] ++ hexByte code) = some code := by
  have every : (List.range 32).all (fun code =>
      hexNumber? (['0', '0'] ++ hexByte code) == some code) = true := by
    decide +kernel
  exact beq_iff_eq.mp (List.all_eq_true.mp every code (List.mem_range.mpr small))

theorem TextState.pushUnit_holding (reversed : List Char) {char : Char}
    (control : char.toNat < 32) :
    (holding reversed).pushUnit char.toNat = holding (char :: reversed) := by
  have notLow : ¬ 0xDC00 ≤ char.toNat := by omega
  have notHigh : ¬ 0xD800 ≤ char.toNat := by omega
  simp [pushUnit, holding, notLow, notHigh, Except.map]

theorem readText_unit (state : TextState) {code : Nat} (small : code < 32)
    (rest : List Char) :
    readText state (['\\', 'u', '0', '0'] ++ hexByte code ++ rest) =
      readText (state.pushUnit code) rest := by
  have number := hexNumber?_hexByte small
  simp only [hexByte, List.cons_append, List.nil_append] at number ⊢
  rw [readText, number]

theorem readText_plain (state : TextState) {char : Char} (quote : char ≠ '"')
    (escape : char ≠ '\\') (printable : ¬ char < ' ') (rest : List Char) :
    readText state (char :: rest) = readText (state.push char) rest := by
  rw [readText, if_neg printable]
  all_goals simp_all

theorem readText_simple (state : TextState) {letter char : Char}
    (simple : simpleEscape? letter = some char) (rest : List Char) :
    readText state ('\\' :: letter :: rest) = readText (state.push char) rest := by
  have notUnit : letter ≠ 'u' := by rintro rfl; simp [simpleEscape?] at simple
  rw [readText, simple]
  all_goals simp_all

/-- What is written for a character is read as this character. -/
theorem readText_escapeChar (reversed : List Char) (char : Char) (rest : List Char) :
    readText (.holding reversed) (escapeChar char ++ rest) =
      readText (.holding (char :: reversed)) rest := by
  unfold escapeChar
  split
  case h_8 quote escape _ _ _ _ _ =>
    split
    · next control =>
        have small : char.toNat < 32 := control
        rw [readText_unit _ small, TextState.pushUnit_holding _ small]
    · next printable => exact readText_plain _ quote escape printable rest
  all_goals exact readText_simple _ rfl rest

theorem readText_escaped (reversed chars rest : List Char) :
    readText (.holding reversed) (chars.flatMap escapeChar ++ '"' :: rest) =
      ((TextState.holding (chars.reverse ++ reversed)).close, rest) := by
  induction chars generalizing reversed with
  | nil => rfl
  | cons char chars ih =>
      rw [List.flatMap_cons, List.append_assoc, readText_escapeChar, ih,
        List.reverse_cons, List.append_assoc, List.singleton_append]

/-- The draft of a string that holds a text. -/
def TextDraft.ofText (text : String) : TextDraft :=
  ⟨.ok text, none⟩

/-- The text of a string is read back after its opening quote. -/
theorem readText_renderText (text : String) (rest : List Char) :
    readText ⟨.ok [], none⟩ (text.toList.flatMap escapeChar ++ '"' :: rest) =
      (.ofText text, rest) := by
  have read := readText_escaped [] text.toList rest
  simpa [TextState.holding, TextState.close, TextState.settle, TextDraft.ofText,
    Except.map] using read

/-! ## Numbers -/

theorem isDigit_of_mem_toDigits {number : Nat} {digit : Char}
    (member : digit ∈ Nat.toDigits 10 number) :
    digit.isDigit = true :=
  Nat.isDigit_of_mem_toDigits (by decide) (by decide) member

theorem exists_digit_of_toDigits (number : Nat) :
    ∃ digit digits, Nat.toDigits 10 number = digit :: digits ∧
      digit.isDigit = true := by
  cases written : Nat.toDigits 10 number with
  | nil => exact absurd written Nat.toDigits_ne_nil
  | cons digit digits =>
      exact ⟨digit, digits, rfl, isDigit_of_mem_toDigits (written ▸ List.mem_cons_self)⟩

/-- A whole number as it is written: as a natural number, or as a positive one after a
sign. -/
theorem eq_natCast_or_eq_neg (value : Int) :
    (∃ number : Nat, value = number) ∨ ∃ number : Nat, 0 < number ∧
      value = -number := by
  by_cases negative : value < 0
  · exact .inr ⟨value.natAbs, by omega, by omega⟩
  · exact .inl ⟨value.natAbs, by omega⟩

theorem le_ofDigitChars (number : Nat) (digits : List Char) :
    number ≤ Nat.ofDigitChars 10 digits number := by
  induction digits generalizing number with
  | nil => exact Nat.le_refl number
  | cons digit digits ih =>
      rw [Nat.ofDigitChars_cons]
      exact Nat.le_trans (by omega) (ih _)

/-- Digits of a number that fits into 64 bits are all taken. -/
theorem absorbDigits_of_fits {number : Nat} {digits : List Char}
    (fits : Nat.ofDigitChars 10 digits number < UInt64.size) :
    absorbDigits number digits = (Nat.ofDigitChars 10 digits number, []) := by
  induction digits generalizing number with
  | nil => rfl
  | cons digit digits ih =>
      rw [Nat.ofDigitChars_cons, Nat.mul_comm] at fits ⊢
      have more := Nat.lt_of_le_of_lt (le_ofDigitChars _ digits) fits
      rw [absorbDigits, if_pos more, ih fits]

theorem ofDigitChars_lt {digits : List Char}
    (decimal : ∀ digit ∈ digits, digit.isDigit = true) (number : Nat) :
    Nat.ofDigitChars 10 digits number < (number + 1) * Nat.pow 10 digits.length := by
  induction digits generalizing number with
  | nil => simp
  | cons digit digits ih =>
      have later :=
        ih (fun digit member => decimal digit (List.mem_cons_of_mem _ member))
        (10 * number + (digit.toNat - '0'.toNat))
      have value : digit.toNat - '0'.toNat ≤ 9 := by
        have bounds : 48 ≤ digit.toNat ∧ digit.toNat ≤ 57 :=
          Char.isDigit_iff_toNat.mp (decimal digit List.mem_cons_self)
        have zero : '0'.toNat = 48 := rfl
        omega
      rw [Nat.ofDigitChars_cons]
      calc
        _ < (10 * number + (digit.toNat - '0'.toNat) + 1) *
          Nat.pow 10 digits.length := later
        _ ≤ (number + 1) * 10 * Nat.pow 10 digits.length :=
          Nat.mul_le_mul_right _ (by omega)
        _ = (number + 1) * Nat.pow 10 (digit :: digits).length := by
          rw [Nat.mul_assoc, Nat.mul_comm 10]
          rfl

/-- The digits of a number have no leading zeros. -/
theorem toDigits_ne_zero_cons (number : Nat) (digit : Char) (digits : List Char) :
    Nat.toDigits 10 number ≠ '0' :: digit :: digits := by
  intro leading
  have decimal : ∀ char ∈ digit :: digits, char.isDigit = true := fun char member =>
    isDigit_of_mem_toDigits (leading ▸ List.mem_cons_of_mem '0' member)
  have small : number < Nat.pow 10 (digit :: digits).length := by
    have value : Nat.ofDigitChars 10 (Nat.toDigits 10 number) 0 = number :=
      Nat.ofDigitChars_ten_toDigits
    rw [leading, Nat.ofDigitChars_cons] at value
    have bound := ofDigitChars_lt decimal (10 * 0 + ('0'.toNat - '0'.toNat))
    rw [value] at bound
    simpa using bound
  have short := (Nat.length_toDigits_le_iff (by decide) (by simp)).mpr small
  simp only [leading, List.length_cons] at short
  omega

/-- Whether a text ends or goes on after a value, as it does within a list. -/
def Ends (rest : List Char) : Prop :=
  ∀ char ∈ rest.head?, char = ',' ∨ char = ']' ∨ char = '\x7d'

theorem takeDigits_toDigits (number : Nat) {rest : List Char} (ends : Ends rest) :
    takeDigits (Nat.toDigits 10 number ++ rest) = (Nat.toDigits 10 number, rest) := by
  have decimal : ∀ digit ∈ Nat.toDigits 10 number, digit.isDigit = true :=
    fun _ => isDigit_of_mem_toDigits
  have other : ∀ char ∈ rest.head?, char.isDigit = false := by
    intro char first
    rcases ends char first with rfl | rfl | rfl <;> decide
  have stops : rest.takeWhile Char.isDigit = [] ∧
      rest.dropWhile Char.isDigit = rest := by
    cases rest with
    | nil => exact ⟨rfl, rfl⟩
    | cons char rest => simp [other char rfl]
  rw [takeDigits, List.takeWhile_append_of_pos decimal,
    List.dropWhile_append_of_pos decimal, stops.1, stops.2, List.append_nil]

theorem readFraction_of_ends (text : NumberText) {rest : List Char} (ends : Ends rest) :
    readFraction text rest = .ok (text, rest) := by
  unfold readFraction
  split
  case h_4 => rfl
  all_goals simp [Ends] at ends

theorem readNumber_toDigits (negative : Bool) (number : Nat) {rest : List Char}
    (ends : Ends rest) :
    readNumber negative (Nat.toDigits 10 number ++ rest) =
      .ok (⟨negative, Nat.toDigits 10 number, none, none⟩, rest) := by
  simp only [readNumber, takeDigits_toDigits number ends]
  split
  · next empty => exact absurd empty Nat.toDigits_ne_nil
  · next leading => exact absurd leading (toDigits_ne_zero_cons number _ _)
  · exact readFraction_of_ends _ ends

theorem absorbDigits_toDigits {number : Nat} (fits : number < Nat.pow 2 64) :
    absorbDigits 0 (Nat.toDigits 10 number) = (number, []) := by
  have value : Nat.ofDigitChars 10 (Nat.toDigits 10 number) 0 = number :=
    Nat.ofDigitChars_ten_toDigits
  rw [absorbDigits_of_fits (value.symm ▸ fits), value]

theorem value_toDigits {number : Nat} (fits : number < Nat.pow 2 64) :
    NumberText.value ⟨false, Nat.toDigits 10 number, none, none⟩ =
      .ok (.int number) := by
  simp [NumberText.value, absorbDigits_toDigits fits]

theorem value_toDigits_neg {number : Nat} (positive : 0 < number)
    (fits : number ≤ Nat.pow 2 63) :
    NumberText.value ⟨true, Nat.toDigits 10 number, none, none⟩ =
      .ok (.int (-number)) := by
  have small : number < Nat.pow 2 64 := Nat.lt_of_le_of_lt fits (by decide)
  have exact : ¬ (number = 0 ∨ Nat.pow 2 63 < number) := by
    rintro (rfl | large)
    · omega
    · exact absurd fits (Nat.not_le.mpr large)
  simp [NumberText.value, absorbDigits_toDigits small, exact]

theorem toList_render_natCast (number : Nat) :
    (Number.int number).render.toList = Nat.toDigits 10 number := by
  simp [Number.render, Int.toString_eq_repr, Int.repr_eq_if,
    Nat.repr_eq_ofList_toDigits]

theorem toList_render_neg {number : Nat} (positive : 0 < number) :
    (Number.int (-number)).render.toList = '-' :: Nat.toDigits 10 number := by
  have nonzero : number ≠ 0 := by omega
  simp [Number.render, Int.toString_eq_repr, Int.repr_eq_if,
    Nat.repr_eq_ofList_toDigits, nonzero]

theorem readScalar_toDigits (number : Nat) (rest : List Char) :
    readScalar (Nat.toDigits 10 number ++ rest) =
      readNumberDraft false (Nat.toDigits 10 number ++ rest) := by
  obtain ⟨digit, digits, written, decimal⟩ := exists_digit_of_toDigits number
  have other {char : Char} (letter : char.isDigit = false) : digit ≠ char := by
    rintro rfl
    simp [decimal] at letter
  rw [written, List.cons_append, readScalar, if_pos decimal]
  all_goals exact other (by decide)

/-- The text of a whole number of 64 bits is read back as this number. -/
theorem readScalar_int {value : Int} (low : -(Nat.pow 2 63 : Int) ≤ value)
    (high : value < Nat.pow 2 64) {rest : List Char} (ends : Ends rest) :
    readScalar ((Number.int value).render.toList ++ rest) =
      (.number (.ok (.int value)), some rest) := by
  rcases eq_natCast_or_eq_neg value with ⟨number, rfl⟩ | ⟨number, positive, rfl⟩
  · rw [toList_render_natCast, readScalar_toDigits, readNumberDraft,
      readNumber_toDigits _ _ ends]
    simp [value_toDigits (show number < Nat.pow 2 64 by omega)]
  · rw [toList_render_neg positive, List.cons_append, readScalar, readNumberDraft,
      readNumber_toDigits _ _ ends]
    simp [value_toDigits_neg positive (by omega)]

/-! ## Values -/

mutual
/-- The draft of a text that holds a value. -/
def Draft.ofValue : Value → Draft
  | .null => .null
  | .bool value => .bool value
  | .number value => .number (.ok value)
  | .string text => .string (.ofText text)
  | .array items => .array (Draft.ofItems items) .closed
  | .object members => .object (Draft.ofMembers members) .closed

def Draft.ofItems : List Value → List Draft
  | [] => []
  | item :: rest => .ofValue item :: Draft.ofItems rest

def Draft.ofMembers : List (String × Value) → List (TextDraft × Draft)
  | [] => []
  | (key, value) :: rest => (.ofText key, .ofValue value) :: Draft.ofMembers rest
end

theorem Draft.ofItems_eq (items : List Value) : ofItems items = items.map ofValue := by
  induction items with
  | nil => rfl
  | cons item rest ih => rw [ofItems, ih, List.map_cons]

theorem Draft.ofMembers_eq (members : List (String × Value)) :
    ofMembers members = members.map fun member =>
      (.ofText member.1, ofValue member.2) := by
  induction members with
  | nil => rfl
  | cons member rest ih => rw [ofMembers, ih, List.map_cons]

/-- Values whose numbers are all whole and of 64 bits, with or without a sign, and in
which at most `depth` arrays and objects are nested. -/
inductive Value.Whole : Nat → Value → Prop
  | null {depth : Nat} : Whole depth .null
  | bool {depth : Nat} (value : Bool) : Whole depth (.bool value)
  | int {depth : Nat} {value : Int} (low : -(Nat.pow 2 63 : Int) ≤ value)
      (high : value < Nat.pow 2 64) :
      Whole depth (.number (.int value))
  | string {depth : Nat} (text : String) : Whole depth (.string text)
  | array {depth : Nat} {items : List Value} (whole : ∀ item ∈ items,
      Whole depth item) :
      Whole (depth + 1) (.array items)
  | object {depth : Nat} {members : List (String × Value)} (whole : ∀ member ∈ members,
      Whole depth member.2) :
      Whole (depth + 1) (.object members)

variable {depth : Nat}

/-- Whether a character can begin a value. -/
def isValueStart (char : Char) : Bool :=
  char.isDigit || ['-', 'n', 't', 'f', '"', '[', '\x7b'].contains char

theorem isValueStart_of_head {value : Value} (whole : value.Whole depth) :
    ∃ char rest, value.chars = char :: rest ∧ isValueStart char = true := by
  cases whole with
  | null | string | array | object => exact ⟨_, _, rfl, rfl⟩
  | bool value => cases value <;> exact ⟨_, _, rfl, rfl⟩
  | @int _ value =>
      rw [Value.chars]
      rcases eq_natCast_or_eq_neg value with ⟨number, rfl⟩ | ⟨number, positive, rfl⟩
      · obtain ⟨digit, digits, written, decimal⟩ := exists_digit_of_toDigits number
        exact ⟨digit, digits,
          by rw [toList_render_natCast, written], by simp [isValueStart, decimal]⟩
      · exact ⟨_, _, toList_render_neg positive, rfl⟩

theorem length_chars_pos {value : Value} (whole : value.Whole depth) :
    0 < value.chars.length := by
  obtain ⟨char, chars, written, -⟩ := isValueStart_of_head whole
  rw [written]
  exact Nat.succ_pos _

theorem skipBlanks_of_isValueStart {char : Char} (start : isValueStart char = true)
    (rest : List Char) :
    skipBlanks (char :: rest) = char :: rest := by
  have other {blank : Char} (blanks : isValueStart blank = false) : (char == blank) =
      false := by
    rw [beq_eq_false_iff_ne]
    rintro rfl
    simp [start] at blanks
  have solid : (char == ' ' || char == '\n' || char == '\t' || char == '\r') =
      false := by
    rw [other (by decide), other (by decide), other (by decide), other (by decide)]
    rfl
  simp only [skipBlanks, List.dropWhile_cons, solid]
  rfl

section Marks

variable (rest : List Char)

@[simp] theorem skipBlanks_quote : skipBlanks ('"' :: rest) = '"' :: rest := rfl

@[simp] theorem skipBlanks_comma : skipBlanks (',' :: rest) = ',' :: rest := rfl

@[simp] theorem skipBlanks_colon : skipBlanks (':' :: rest) = ':' :: rest := rfl

@[simp] theorem skipBlanks_bracket : skipBlanks ('[' :: rest) = '[' :: rest := rfl

@[simp] theorem skipBlanks_brace : skipBlanks ('\x7b' :: rest) = '\x7b' :: rest := rfl

end Marks

@[simp] theorem TextDraft.stopped_ofText (text : String) :
    (TextDraft.ofText text).stopped = none := rfl

/-- The text of a member of an object. -/
def memberText (member : String × Value) : List Char :=
  renderText member.1 ++ ':' :: member.2.chars

theorem itemChars_cons (item : Value) (rest : List Value) :
    itemChars (item :: rest) = item.chars ++ rest.flatMap fun item =>
      ',' :: item.chars := by
  induction rest generalizing item with
  | nil => simp [itemChars]
  | cons next rest ih => rw [itemChars, ih, List.flatMap_cons, List.cons_append]; simp

theorem memberChars_cons (member : String × Value) (rest : List (String × Value)) :
    memberChars (member :: rest) = memberText member ++ rest.flatMap fun member =>
      ',' :: memberText member := by
  induction rest generalizing member with
  | nil => simp [memberChars, memberText]
  | cons next rest ih =>
      obtain ⟨key, value⟩ := member
      rw [memberChars, ih, List.flatMap_cons]
      · simp [memberText]
      · simp

theorem ends_of_separated {α : Type} (text : α → List Char) (rest : List α)
    {close : Char} (closes : close = ']' ∨ close = '\x7d') (after : List Char) :
    Ends ((rest.flatMap fun item => ',' :: text item) ++ close :: after) := by
  cases rest with
  | nil => simpa [Ends] using Or.inr closes
  | cons => simp [Ends]

section Items

variable {steps : Nat} {value : Value} {rest after : List Char} {item : Draft}
  {items : List Draft} {tail : ListTail}
  {left : Option (List Char)}

theorem readItems_first (whole : value.Whole depth)
    (read : readValue steps (value.chars ++ rest) = (item, some after))
    (others : readItems steps false after = (items, tail, left)) :
    readItems (steps + 1) true (value.chars ++ rest) = (item :: items, tail, left) := by
  obtain ⟨char, chars, written, start⟩ := isValueStart_of_head whole
  rw [written, List.cons_append] at read ⊢
  simp only [readItems, skipBlanks_of_isValueStart start]
  split
  · next empty => simp at empty
  · next close => obtain ⟨rfl, -⟩ := List.cons.inj close; simp [isValueStart] at start
  · next plain => obtain ⟨rfl, rfl⟩ := List.cons.inj plain; simp [read, others]

theorem readItems_comma (whole : value.Whole depth)
    (read : readValue steps (value.chars ++ rest) = (item, some after))
    (others : readItems steps false after = (items, tail, left)) :
    readItems (steps + 1) false (',' :: (value.chars ++ rest)) =
      (item :: items, tail, left) := by
  obtain ⟨char, chars, written, start⟩ := isValueStart_of_head whole
  rw [written, List.cons_append] at read ⊢
  simp only [readItems, skipBlanks_comma, skipBlanks_of_isValueStart start,
    Char.reduceEq, imp_self, Bool.false_eq_true, ↓reduceIte]
  split
  · next empty => simp at empty
  · next close => obtain ⟨rfl, -⟩ := List.cons.inj close; simp [isValueStart] at start
  · simp [read, others]

end Items

section Members

variable {steps : Nat} {key : String} {rest after : List Char} {value : Draft}
  {members : List (TextDraft × Draft)}
  {tail : ObjectTail Draft} {left : Option (List Char)}

theorem readMembers_first (read : readValue steps rest = (value, some after))
    (others : readMembers steps false after = (members, tail, left)) :
    readMembers (steps + 1) true (renderText key ++ ':' :: rest) =
      ((.ofText key, value) :: members, tail, left) := by
  simp [readMembers, renderText, readText_renderText, read, others]

theorem readMembers_comma (read : readValue steps rest = (value, some after))
    (others : readMembers steps false after = (members, tail, left)) :
    readMembers (steps + 1) false (',' :: (renderText key ++ ':' :: rest)) =
      ((.ofText key, value) :: members, tail, left) := by
  simp [readMembers, renderText, readText_renderText, read, others]

end Members

/-- Whether the text of a value is read back, given as many steps as it has
characters. -/
def Reads (value : Value) : Prop :=
  ∀ steps rest, value.chars.length ≤ steps → Ends rest →
    readValue steps (value.chars ++ rest) = (.ofValue value, some rest)

theorem readItems_separated {items : List Value}
    (whole : ∀ item ∈ items, item.Whole depth) (readable : ∀ item ∈ items, Reads item)
    {steps : Nat}
    (enough : (items.flatMap fun item => ',' :: item.chars).length < steps)
    (after : List Char) :
    readItems steps false ((items.flatMap fun item => ',' :: item.chars) ++
      ']' :: after) = (items.map .ofValue, .closed, some after) := by
  induction items generalizing steps with
  | nil =>
      obtain ⟨steps, rfl⟩ := Nat.exists_eq_add_of_lt enough
      rfl
  | cons item items ih =>
      obtain ⟨⟨wholeItem, wholeItems⟩, readableItem, readableItems⟩ :=
        And.intro (List.forall_mem_cons.mp whole) (List.forall_mem_cons.mp readable)
      obtain ⟨steps, rfl⟩ : ∃ fewer, steps = fewer + 1 := ⟨steps - 1, by omega⟩
      simp only [List.flatMap_cons, List.cons_append, List.length_cons,
        List.length_append] at enough
      have read :=
        readableItem steps _ (by omega)
          (ends_of_separated Value.chars items (.inl rfl) after)
      have others := ih wholeItems readableItems (show _ < steps by omega)
      simpa using readItems_comma wholeItem read others

theorem readItems_itemChars {items : List Value}
    (whole : ∀ item ∈ items, item.Whole depth) (readable : ∀ item ∈ items, Reads item)
    {steps : Nat} (enough : (itemChars items).length < steps) (after : List Char) :
    readItems steps true (itemChars items ++ ']' :: after) =
      (items.map .ofValue, .closed, some after) := by
  obtain ⟨steps, rfl⟩ : ∃ fewer, steps = fewer + 1 := ⟨steps - 1, by omega⟩
  cases items with
  | nil => rfl
  | cons item items =>
      obtain ⟨⟨wholeItem, wholeItems⟩, readableItem, readableItems⟩ :=
        And.intro (List.forall_mem_cons.mp whole) (List.forall_mem_cons.mp readable)
      rw [itemChars_cons, List.length_append] at enough
      have nonempty := length_chars_pos wholeItem
      have read :=
        readableItem steps _ (by omega)
          (ends_of_separated Value.chars items (.inl rfl) after)
      have others :=
        readItems_separated wholeItems readableItems (show _ < steps by omega) after
      rw [itemChars_cons, List.append_assoc]
      exact readItems_first wholeItem read others

theorem readMembers_separated {members : List (String × Value)}
    (readable : ∀ member ∈ members, Reads member.2) {steps : Nat}
    (enough : (members.flatMap fun member => ',' :: memberText member).length < steps)
    (after : List Char) :
    readMembers steps false ((members.flatMap fun member => ',' :: memberText member) ++
      '\x7d' :: after) = (Draft.ofMembers members, .closed, some after) := by
  induction members generalizing steps with
  | nil =>
      obtain ⟨steps, rfl⟩ := Nat.exists_eq_add_of_lt enough
      rfl
  | cons member members ih =>
      obtain ⟨readableMember, readableMembers⟩ := List.forall_mem_cons.mp readable
      obtain ⟨steps, rfl⟩ : ∃ fewer, steps = fewer + 1 := ⟨steps - 1, by omega⟩
      simp only [List.flatMap_cons, memberText, List.cons_append, List.length_cons,
        List.length_append] at enough
      have read :=
        readableMember steps _ (by omega)
          (ends_of_separated memberText members (.inr rfl) after)
      have others :=
        ih readableMembers (show _ < steps by simp only [memberText]; omega)
      simpa [memberText, Draft.ofMembers] using readMembers_comma read others

theorem readMembers_memberChars {members : List (String × Value)}
    (readable : ∀ member ∈ members, Reads member.2) {steps : Nat}
    (enough : (memberChars members).length < steps) (after : List Char) :
    readMembers steps true (memberChars members ++ '\x7d' :: after) =
      (Draft.ofMembers members, .closed, some after) := by
  obtain ⟨steps, rfl⟩ : ∃ fewer, steps = fewer + 1 := ⟨steps - 1, by omega⟩
  cases members with
  | nil => rfl
  | cons member members =>
      obtain ⟨readableMember, readableMembers⟩ := List.forall_mem_cons.mp readable
      simp only [memberChars_cons, memberText, List.length_append,
        List.length_cons] at enough
      have read :=
        readableMember steps _ (by omega)
          (ends_of_separated memberText members (.inr rfl) after)
      have others :=
        readMembers_separated readableMembers
          (show _ < steps by simp only [memberText]; omega) after
      simpa [memberChars_cons, memberText, Draft.ofMembers]
        using readMembers_first read others

theorem readValue_int {value : Int} (low : -(Nat.pow 2 63 : Int) ≤ value)
    (high : value < Nat.pow 2 64) (steps : Nat) {rest : List Char} (ends : Ends rest) :
    readValue (steps + 1) ((Number.int value).render.toList ++ rest) =
      (.number (.ok (.int value)), some rest) := by
  obtain ⟨char, chars, written, start⟩ :=
    isValueStart_of_head (.int low high : Value.Whole 0 _)
  have read := readScalar_int low high ends
  rw [Value.chars] at written
  rw [written, List.cons_append] at read ⊢
  simp only [readValue, skipBlanks_of_isValueStart start]
  split
  -- Neither bracket begins a scalar.
  · next opened => rw [opened] at read; simp [readScalar] at read
  · next opened => rw [opened] at read; simp [readScalar] at read
  · exact read

/-- The text of a value is read back as this value, with what follows left over. -/
theorem reads_of_whole {value : Value} (whole : value.Whole depth) : Reads value := by
  induction whole with
  | null =>
      intro steps rest enough ends
      obtain ⟨steps, rfl⟩ := Nat.exists_eq_add_of_le' enough
      rfl
  | bool value =>
      intro steps rest enough ends
      cases value
      · obtain ⟨steps, rfl⟩ := Nat.exists_eq_add_of_le' enough
        rfl
      · obtain ⟨steps, rfl⟩ := Nat.exists_eq_add_of_le' enough
        rfl
  | string text =>
      intro steps rest enough ends
      obtain ⟨steps, rfl⟩ :=
        Nat.exists_eq_add_of_le' (Nat.lt_of_lt_of_le (Nat.succ_pos _) enough)
      simp [Value.chars, renderText, readValue, readScalar, readText_renderText,
        Draft.ofValue]
  | int low high =>
      intro steps rest enough ends
      have positive := length_chars_pos (.int low high : Value.Whole 0 _)
      obtain ⟨steps, rfl⟩ : ∃ fewer, steps = fewer + 1 := ⟨steps - 1, by omega⟩
      exact readValue_int low high steps ends
  | array whole ih =>
      intro steps rest enough ends
      simp only [Value.chars, List.length_cons, List.length_append,
        List.length_nil] at enough
      obtain ⟨steps, rfl⟩ : ∃ fewer, steps = fewer + 1 := ⟨steps - 1, by omega⟩
      have read := readItems_itemChars whole ih (show _ < steps by omega) rest
      simp [Value.chars, readValue, read, Draft.ofValue, Draft.ofItems_eq]
  | object whole ih =>
      intro steps rest enough ends
      simp only [Value.chars, List.length_cons, List.length_append,
        List.length_nil] at enough
      obtain ⟨steps, rfl⟩ : ∃ fewer, steps = fewer + 1 := ⟨steps - 1, by omega⟩
      have read := readMembers_memberChars ih (show _ < steps by omega) rest
      simp [Value.chars, readValue, read, Draft.ofValue]

/-- The compact text of a value is read back as this value. -/
theorem Document.ofText_render {value : Value} (whole : value.Whole depth) :
    Document.ofText value.render = ⟨.ofValue value, false⟩ := by
  have ends : Ends [] := by simp [Ends]
  have read := reads_of_whole whole (2 * value.chars.length + 1) [] (by omega) ends
  rw [List.append_nil] at read
  simp [ofText, Value.render, read, skipBlanks]

end GodotSdk.Json
