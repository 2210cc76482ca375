import GodotSdk.Proofs.Time.Rendering

/-!
# Years of more than four digits

A point in time is written with a `Z` at its end. The readers that take a year with a
sign take no offset, so each of them leaves the `Z` over, and the reader that takes an
offset knows no sign. So whatever text a point in time came from, what is written for it
is read as a point in time only if four digits suffice for its year, and then it is the
same one.
-/

namespace GodotSdk.Timestamp

variable {text rest : List Char}

/-! ## What the readers leave over -/

theorem mem_of_cons {char : Char} (other : char ≠ 'Z') (member : 'Z' ∈ char :: rest) :
    'Z' ∈ rest :=
  (List.mem_cons.mp member).resolve_left other.symm

theorem mem_trimStart (member : 'Z' ∈ text) : 'Z' ∈ Text.trimStart text := by
  rw [← List.takeWhile_append_dropWhile (p := Text.isBlank) (l := text)] at member
  refine (List.mem_append.mp member).resolve_left fun skipped => ?_
  have blank : Text.isBlank 'Z' = true := List.mem_takeWhile_imp skipped
  exact absurd blank (by decide)

theorem mem_drop_of_digits {digits : List Char} (starts : digits <+: text)
    (decimal : ∀ digit ∈ digits, digit.isDigit = true) (member : 'Z' ∈ text) :
    'Z' ∈ text.drop digits.length := by
  rw [← List.prefix_iff_eq_append.mp starts] at member
  refine (List.mem_append.mp member).resolve_left fun read => ?_
  exact absurd (decimal 'Z' read) (by decide)

theorem mem_of_readDigits {least most number : Nat}
    (read : readDigits least most text = some (number, rest))
    (member : 'Z' ∈ text) : 'Z' ∈ rest := by
  simp only [readDigits] at read
  split at read
  · cases read
  · obtain ⟨-, rfl⟩ := Prod.mk.inj (Option.some.inj read)
    have starts : (text.take most).takeWhile Char.isDigit <+: text :=
      (List.takeWhile_prefix _).trans (List.take_prefix most text)
    exact mem_drop_of_digits starts (fun _ => List.mem_takeWhile_imp) member

theorem mem_of_readChar {char : Char} (read : readChar char text = some rest)
    (other : char ≠ 'Z') (member : 'Z' ∈ text) : 'Z' ∈ rest := by
  cases text with
  | nil => cases member
  | cons found text =>
      rw [readChar] at read
      split at read
      · next same =>
          obtain rfl := Option.some.inj read
          exact mem_of_cons (same ▸ other) member
      · cases read

theorem mem_of_readNanos {nano : Nat} (read : readNanos text = some (nano, rest))
    (member : 'Z' ∈ text) :
    'Z' ∈ rest := by
  unfold readNanos at read
  split at read
  · simp only [readFraction] at read
    split at read
    · cases read
    · obtain ⟨-, rfl⟩ := Prod.mk.inj (Option.some.inj read)
      exact mem_drop_of_digits (List.takeWhile_prefix _) (fun _ =>
        List.mem_takeWhile_imp) (mem_of_cons (by decide) member)
  · obtain ⟨-, rfl⟩ := Prod.mk.inj (Option.some.inj read)
    exact member

theorem mem_of_readYear {year : Int} (read : readYear text = some (year, rest))
    (member : 'Z' ∈ text) :
    'Z' ∈ rest := by
  have start := mem_trimStart member
  unfold readYear at read
  split at read
  · next signed =>
      obtain ⟨⟨_, _⟩, digits, same⟩ := Option.map_eq_some_iff.mp read
      obtain ⟨-, rfl⟩ := Prod.mk.inj same
      exact mem_of_readDigits digits (mem_of_cons (by decide) (signed ▸ start))
  · next signed =>
      obtain ⟨⟨_, _⟩, digits, same⟩ := Option.map_eq_some_iff.mp read
      obtain ⟨-, rfl⟩ := Prod.mk.inj same
      exact mem_of_readDigits digits (mem_of_cons (by decide) (signed ▸ start))
  · obtain ⟨⟨_, _⟩, digits, same⟩ := Option.map_eq_some_iff.mp read
    obtain ⟨-, rfl⟩ := Prod.mk.inj same
    exact mem_of_readDigits digits start

theorem mem_of_readShort {number : Nat} (read : readShort text = some (number, rest))
    (member : 'Z' ∈ text) :
    'Z' ∈ rest :=
  mem_of_readDigits read (mem_trimStart member)

theorem mem_of_readDate {year : Int} {month day : Nat}
    (read : readDate text = some (year, month, day, rest))
    (member : 'Z' ∈ text) : 'Z' ∈ rest := by
  obtain ⟨⟨_, _⟩, years, read⟩ := Option.bind_eq_some_iff.mp read
  obtain ⟨_, first, read⟩ := Option.bind_eq_some_iff.mp read
  obtain ⟨⟨_, _⟩, months, read⟩ := Option.bind_eq_some_iff.mp read
  obtain ⟨_, second, read⟩ := Option.bind_eq_some_iff.mp read
  obtain ⟨⟨_, _⟩, days, read⟩ := Option.bind_eq_some_iff.mp read
  cases read
  exact mem_of_readYear years member |> mem_of_readChar first (by decide) |>
    mem_of_readShort months
    |> mem_of_readChar second (by decide) |> mem_of_readShort days

/-! ## Readers without an offset -/

theorem readClock_of_mem (member : 'Z' ∈ text) : readClock text = none := by
  rw [Option.eq_none_iff_forall_ne_some]
  rintro clock read
  obtain ⟨⟨_, _⟩, hours, read⟩ := Option.bind_eq_some_iff.mp read
  obtain ⟨_, first, read⟩ := Option.bind_eq_some_iff.mp read
  obtain ⟨⟨_, _⟩, minutes, read⟩ := Option.bind_eq_some_iff.mp read
  obtain ⟨_, second, read⟩ := Option.bind_eq_some_iff.mp read
  obtain ⟨⟨_, _⟩, seconds, read⟩ := Option.bind_eq_some_iff.mp read
  obtain ⟨⟨_, rest⟩, nanos, read⟩ := Option.bind_eq_some_iff.mp read
  have left : 'Z' ∈ rest :=
    mem_of_readShort hours member |> mem_of_readChar first (by decide)
    |> mem_of_readShort minutes |> mem_of_readChar second (by decide) |>
      mem_of_readShort seconds
    |> mem_of_readNanos nanos
  cases rest with
  | nil => cases left
  | cons _ _ => cases read

theorem ofLocal?_of_mem {divide : List Char → Option (List Char)}
    (leaves : ∀ text rest, divide text = some rest → 'Z' ∈ text → 'Z' ∈ rest)
    (member : 'Z' ∈ text) :
    ofLocal? divide text = none := by
  rw [Option.eq_none_iff_forall_ne_some]
  intro time read
  obtain ⟨⟨_, _, _, _⟩, date, read⟩ := Option.bind_eq_some_iff.mp read
  obtain ⟨_, divided, read⟩ := Option.bind_eq_some_iff.mp read
  obtain ⟨_, clock, -⟩ := Option.bind_eq_some_iff.mp read
  rw [readClock_of_mem (leaves _ _ divided (mem_of_readDate date member))] at clock
  cases clock

theorem ofDay?_of_mem (member : 'Z' ∈ text) : ofDay? text = none := by
  rw [Option.eq_none_iff_forall_ne_some]
  intro time read
  obtain ⟨⟨_, _, _, rest⟩, date, read⟩ := Option.bind_eq_some_iff.mp read
  have left := mem_of_readDate date member
  cases rest with
  | nil => cases left
  | cons _ _ => cases read

theorem ofInternet?_of_sign {sign : Char} (notDigit : sign.isDigit = false) :
    ofInternet? (sign :: rest) = none := by
  have noYear : readDigits 4 4 (sign :: rest) = none := by simp [readDigits, notDigit]
  rw [ofInternet?, noYear]
  rfl

/-! ## Points in time written and read again -/

variable {time : Timestamp}

/-- Where four digits do not suffice for the year, nobody reads the text again. -/
theorem ofText?_render_of_long (long : ¬ time.hasPlainYear) :
    ofText? time.render = none := by
  have marked : 'Z' ∈ time.render.toList := by simp [render]
  have signed : ∃ sign rest, time.render.toList = sign :: rest ∧
      sign.isDigit = false := by
    have unplain : (0 ≤ time.date.year && time.date.year ≤ 9999) = false := by
      simpa [hasPlainYear] using long
    rw [render, String.toList_ofList, yearChars, unplain]
    refine ⟨_, _, rfl, ?_⟩
    split <;> decide
  obtain ⟨sign, rest, whole, notDigit⟩ := signed
  have internet : ofInternet? time.render.toList = none := by
    rw [whole, ofInternet?_of_sign notDigit]
  have divided : ofLocal? (readChar 'T') time.render.toList = none :=
    ofLocal?_of_mem (fun _ _ read => mem_of_readChar read (by decide)) marked
  have spaced : ofLocal? (some ∘ Text.trimStart) time.render.toList = none :=
    ofLocal?_of_mem (fun _ _ read member =>
      Option.some.inj read ▸ mem_trimStart member) marked
  rw [ofText?, trim_render, internet, divided, spaced, ofDay?_of_mem marked]
  rfl

instance (time : Timestamp) : Decidable time.hasPlainYear :=
  inferInstanceAs (Decidable (_ ∧ _))

/-- What is written for the point in time that a text denotes is read as the same point
in time if four digits suffice for its year, and is not read at all if they do not. -/
theorem reread_eq_filter_plain (text : String) :
    ((ofText? text).bind fun time => ofText? time.render) = (ofText? text).filter
      fun time => time.hasPlainYear := by
  cases ofText? text with
  | none => rfl
  | some time =>
      by_cases plain : time.hasPlainYear
      · simp [Option.filter, ofText?_render plain, plain]
      · simp [Option.filter, ofText?_render_of_long plain, plain]

/-- An offset carries the last hour of the year 9999 into the next one. That point in
time is written with a sign, which is read without the `Z` only. -/
theorem carriedYear_not_reread :
    ∃ time, ofText? "9999-12-31T23:59:59-01:00" = some time ∧
      time.render = "+10000-01-01T00:59:59Z" ∧ ofText? "+10000-01-01T00:59:59Z" = none ∧
        ofText? "+10000-01-01T00:59:59" = some time :=
  ⟨⟨⟨10000, 1, 1, by decide⟩, 3599, 0, by decide⟩, by decide⟩

end GodotSdk.Timestamp
