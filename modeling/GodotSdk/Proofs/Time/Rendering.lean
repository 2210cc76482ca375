import GodotSdk.Time.Text
import Mathlib.Data.List.TakeWhile

/-!
# Rendered points in time

The text that is written for a point in time is read back as the same point in time, as
long as four digits suffice for its year. Each part of the text is read back by itself,
with the text after it left over, and the parts are put together in the order in which
they stand.
-/

namespace GodotSdk.Timestamp

/-! ## Digits -/

theorem isDigit_of_mem_padded {width number : Nat} {char : Char}
    (member : char ∈ padded width number) :
    char.isDigit = true := by
  rw [padded, List.mem_append] at member
  cases member with
  | inl zero => rw [List.eq_of_mem_replicate zero]; decide
  | inr digit => exact Nat.isDigit_of_mem_toDigits (by decide) (by decide) digit

theorem digitsValue_eq (digits : List Char) :
    digitsValue digits = Nat.ofDigitChars 10 digits 0 := by
  simp only [digitsValue, Nat.ofDigitChars_eq_foldl, Nat.mul_comm]

theorem digitsValue_padded (width number : Nat) :
    digitsValue (padded width number) = number := by
  rw [digitsValue_eq, padded, Nat.ofDigitChars_append, Nat.ofDigitChars_replicate_zero,
    Nat.mul_zero, Nat.ofDigitChars_ten_toDigits]

theorem length_padded {width number : Nat} (positive : 0 < width)
    (fits : number < Nat.pow 10 width) :
    (padded width number).length = width := by
  have short := (Nat.length_toDigits_le_iff (by decide) positive).mpr fits
  simp only [padded, List.length_append, List.length_replicate]
  omega

/-- A number with leading zeros is read up to its last digit. -/
theorem readDigits_padded {width number : Nat} (positive : 0 < width)
    (fits : number < Nat.pow 10 width) (rest : List Char) :
    readDigits width width (padded width number ++ rest) = some (number, rest) := by
  have length := length_padded positive fits
  have all : (padded width number).takeWhile Char.isDigit = padded width number :=
    List.takeWhile_eq_self_iff.mpr fun _ => isDigit_of_mem_padded
  have taken : (padded width number ++ rest).take width = padded width number :=
    List.take_left' length
  simp [readDigits, taken, all, length, digitsValue_padded, List.drop_left' length]

@[simp] theorem readChar_self (char : Char) (rest : List Char) :
    readChar char (char :: rest) = some rest := by
  simp [readChar]

/-! ## Fractions -/

theorem readFraction_padded {width number : Nat} (positive : 0 < width)
    (atMost : width ≤ 9) (fits : number < Nat.pow 10 width) (rest : List Char) :
    readFraction (padded width number ++ 'Z' :: rest) =
      some (number * Nat.pow 10 (9 - width), 'Z' :: rest) := by
  have length := length_padded positive fits
  have digits : (padded width number ++ 'Z' :: rest).takeWhile Char.isDigit =
      padded width number := by
    have stops : ('Z' :: rest).takeWhile Char.isDigit = [] :=
      List.takeWhile_cons_of_neg (by decide)
    rw [List.takeWhile_append_of_pos fun _ => isDigit_of_mem_padded, stops,
      List.append_nil]
  have nonempty : (padded width number).isEmpty = false := by
    rw [List.isEmpty_eq_false_iff_exists_mem]
    exact List.exists_mem_of_length_pos (by omega)
  have counted : (padded width number).take 9 = padded width number :=
    List.take_of_length_le (by omega)
  simp [readFraction, digits, nonempty, counted, length, digitsValue_padded,
    List.drop_left' length]

theorem readNanos_nanoChars {nano : Nat} (fits : nano < 1000000000) (rest : List Char) :
    readNanos (nanoChars nano ++ 'Z' :: rest) = some (nano, 'Z' :: rest) := by
  unfold nanoChars
  split
  · next zero => rw [zero]; rfl
  · split
    · next millis =>
        have small : nano / 1000000 < Nat.pow 10 3 := by
          show nano / 1000000 < 1000; omega
        have whole : nano / 1000000 * Nat.pow 10 (9 - 3) = nano :=
          Nat.div_mul_cancel (Nat.dvd_of_mod_eq_zero millis)
        rw [List.cons_append, readNanos,
          readFraction_padded (by decide) (by decide) small, whole]
    · split
      · next micros =>
          have small : nano / 1000 < Nat.pow 10 6 := by
            show nano / 1000 < 1000000; omega
          have whole : nano / 1000 * Nat.pow 10 (9 - 6) = nano :=
            Nat.div_mul_cancel (Nat.dvd_of_mod_eq_zero micros)
          rw [List.cons_append, readNanos,
            readFraction_padded (by decide) (by decide) small, whole]
      · rw [List.cons_append, readNanos,
          readFraction_padded (by decide) (by decide) fits]
        simp

/-! ## Fields -/

theorem of?_eq_some (time : Timestamp) :
    of? time.date time.second time.nano = some time := by
  rw [of?, dif_pos time.valid]

theorem fromOffset?_zero (time : Timestamp) : time.fromOffset? 0 = some time := by
  have valid := time.valid
  simp only [isTimeOfDay, Bool.and_eq_true, decide_eq_true_eq] at valid
  have notBefore : ¬ (time.second : Int) - 60 * 0 < 0 := by omega
  have sameDay : (time.second : Int) - 60 * 0 < 86400 := by omega
  have same : ((time.second : Int) - 60 * 0).toNat = time.second := by omega
  rw [fromOffset?, if_neg notBefore, if_pos sameDay, same, time.of?_eq_some]

/-- The fields that are shown make up the point in time. A leap second is shown as the
sixtieth of its minute. -/
theorem ofFields?_shown (time : Timestamp) :
    ofFields? time.date.year time.date.month time.date.day (time.second / 3600)
      (time.second / 60 % 60)
      (time.second % 60 + if 1000000000 ≤ time.nano then 1 else 0)
      (if 1000000000 ≤ time.nano then time.nano - 1000000000 else time.nano) =
        some time := by
  have valid := time.valid
  simp only [isTimeOfDay, Bool.and_eq_true, Bool.or_eq_true, decide_eq_true_eq] at valid
  have date : Date.of? time.date.year time.date.month time.date.day =
      some time.date := by
    rw [Date.of?, dif_pos time.date.valid]
  have hour : ¬ 23 < time.second / 3600 := by omega
  have minute : ¬ 59 < time.second / 60 % 60 := by omega
  by_cases leap : 1000000000 ≤ time.nano
  · have last : time.second % 60 = 59 := by omega
    have second : time.second / 3600 * 3600 + time.second / 60 % 60 * 60 + 59 =
        time.second := by omega
    have nano : time.nano - 1000000000 + 1000000000 = time.nano := by omega
    simp [ofFields?, leap, last, hour, minute, date, second, nano, time.of?_eq_some]
  · have ordinary : ¬ 60 < time.second % 60 ∧ time.second % 60 ≠ 60 := by omega
    have second : time.second / 3600 * 3600 + time.second / 60 % 60 * 60 + time.second %
        60 = time.second := by
      omega
    simp [ofFields?, leap, ordinary, hour, minute, date, second, time.of?_eq_some]

/-! ## The whole text -/

/-- Whether four digits without a sign suffice for the year. -/
def hasPlainYear (time : Timestamp) : Prop :=
  0 ≤ time.date.year ∧ time.date.year ≤ 9999

variable {time : Timestamp}

theorem yearChars_of_plain (plain : time.hasPlainYear) :
    yearChars time.date.year = padded 4 time.date.year.toNat := by
  simp [yearChars, plain.1, plain.2]

/-- A reading goes on with what its first step has read. -/
theorem bind_eq_of_eq_some {α β : Type} {step : Option α} {next : α → Option β}
    {value : α} {result : Option β}
    (read : step = some value) (others : next value = result) :
    step >>= next = result := by
  rw [read]
  exact others

/-- The fields of a date and a clock are read from their digits, one after the other. -/
theorem ofInternet?_fields {year month day hour minute second nano : Nat}
    (yearFits : year < 10000) (monthFits : month < 100) (dayFits : day < 100)
    (hourFits : hour < 100) (minuteFits : minute < 100) (secondFits : second < 100)
    (nanoFits : nano < 1000000000) :
    ofInternet? (padded 4 year ++
      '-' :: (padded 2 month ++ '-' :: (padded 2 day ++ 'T' :: (padded 2 hour ++
        ':' :: (padded 2 minute ++
          ':' :: (padded 2 second ++ (nanoChars nano ++ ['Z']))))))) =
      (ofFields? year month day hour minute second nano).bind (fromOffset? · 0) := by
  have two : 0 < 2 := by decide
  rw [ofInternet?]
  refine bind_eq_of_eq_some (readDigits_padded (by decide) yearFits _) ?_
  refine bind_eq_of_eq_some (readChar_self '-' _) ?_
  refine bind_eq_of_eq_some (readDigits_padded two monthFits _) ?_
  refine bind_eq_of_eq_some (readChar_self '-' _) ?_
  refine bind_eq_of_eq_some (readDigits_padded two dayFits _) ?_
  refine bind_eq_of_eq_some rfl ?_
  refine bind_eq_of_eq_some (readDigits_padded two hourFits _) ?_
  refine bind_eq_of_eq_some (readChar_self ':' _) ?_
  refine bind_eq_of_eq_some (readDigits_padded two minuteFits _) ?_
  refine bind_eq_of_eq_some (readChar_self ':' _) ?_
  refine bind_eq_of_eq_some (readDigits_padded two secondFits _) ?_
  refine bind_eq_of_eq_some (readNanos_nanoChars nanoFits []) ?_
  rfl

theorem daysInMonth_le (year : Int) (month : Nat) : daysInMonth year month ≤ 31 := by
  unfold daysInMonth
  split
  · split <;> decide
  · split <;> decide

theorem ofInternet?_render (plain : time.hasPlainYear) :
    ofInternet? time.render.toList = some time := by
  have valid := time.valid
  have date := time.date.valid
  simp only [isTimeOfDay, isDate, Bool.and_eq_true, Bool.or_eq_true, decide_eq_true_eq]
    at valid date
  have days := daysInMonth_le time.date.year time.date.month
  have signed : (time.date.year.toNat : Int) = time.date.year :=
    Int.toNat_of_nonneg plain.1
  have year : time.date.year.toNat < 10000 := by have := plain.2; omega
  have month : time.date.month < 100 := by omega
  have day : time.date.day < 100 := by omega
  have hour : time.second / 3600 < 100 := by omega
  have minute : time.second / 60 % 60 < 100 := by omega
  have second : time.second % 60 + (if 1000000000 ≤ time.nano then 1 else 0) < 100 := by
    split <;> omega
  have nano : (if 1000000000 ≤ time.nano then time.nano - 1000000000 else time.nano) <
      1000000000 := by
    split <;> omega
  have read := ofInternet?_fields year month day hour minute second nano
  rw [signed, time.ofFields?_shown, Option.bind_some, time.fromOffset?_zero] at read
  rw [← read, render, String.toList_ofList, yearChars_of_plain plain]
  simp only [List.append_assoc, List.cons_append]

theorem isBlank_of_isDigit {char : Char} (digit : char.isDigit = true) :
    Text.isBlank char = false := by
  have digits : (List.range' 48 10).all (fun code =>
      !Text.inRanges Text.blanks.ranges code) = true := by decide
  have bounds : 48 ≤ char.toNat ∧ char.toNat ≤ 57 := Char.isDigit_iff_toNat.mp digit
  have member : char.toNat ∈ List.range' 48 10 := List.mem_range'_1.mpr (by omega)
  simpa [Text.isBlank, Text.RangeTable.contains]
    using List.all_eq_true.mp digits _ member

theorem trim_of_ends {text : List Char}
    (first : ∀ char ∈ text.head?, Text.isBlank char = false)
    (last : ∀ char ∈ text.getLast?, Text.isBlank char = false) :
    Text.trim text = text := by
  have start : Text.trimStart text = text := by
    cases text with
    | nil => rfl
    | cons char rest =>
        have solid : Text.isBlank char = false := first char rfl
        simp [Text.trimStart, solid]
  have ending : text.reverse.dropWhile Text.isBlank = text.reverse := by
    rw [← List.head?_reverse] at last
    cases reversed : text.reverse with
    | nil => rfl
    | cons char rest =>
        have solid : Text.isBlank char = false := last char (by rw [reversed]; rfl)
        simp [solid]
  rw [Text.trim, start, Text.trimEndWhile, ending, List.reverse_reverse]

theorem exists_head_yearChars (year : Int) :
    ∃ char rest, yearChars year = char :: rest ∧ Text.isBlank char = false := by
  unfold yearChars
  split
  · cases digits : padded 4 year.toNat with
    | nil => simp [padded] at digits
    | cons digit rest =>
        have member : digit ∈ padded 4 year.toNat := digits ▸ List.mem_cons_self
        exact ⟨digit, rest, rfl, isBlank_of_isDigit (isDigit_of_mem_padded member)⟩
  · refine ⟨_, _, rfl, ?_⟩
    split <;> decide

/-- The text of a point in time has no blanks around it. -/
theorem trim_render (time : Timestamp) :
    Text.trim time.render.toList = time.render.toList := by
  apply trim_of_ends
  · intro char first
    obtain ⟨head, rest, year, solid⟩ := exists_head_yearChars time.date.year
    rw [render, String.toList_ofList, year] at first
    obtain rfl : head = char := by simpa using first
    exact solid
  · intro char last
    rw [render, String.toList_ofList, List.getLast?_concat] at last
    obtain rfl := Option.some.inj last
    decide

/-- What is written for a point in time in the years up to 9999 is read back as this
point in time. -/
theorem ofText?_render (plain : time.hasPlainYear) :
    ofText? time.render = some time := by
  rw [ofText?, trim_render, ofInternet?_render plain]
  rfl

end GodotSdk.Timestamp
