/-!
# Tables of code points

Unicode properties are sets of code points, and its case mappings are maps between them.
Both are written as ascending runs, so that a table is short and a search may stop
early.
-/

namespace GodotSdk.Text

/-- A set of code points as inclusive ranges, ascending and disjoint. -/
structure RangeTable where
  ranges : List (Nat × Nat)

/-- Whether one of the ranges holds the code point. Later ranges are larger, so the
search ends at the first range that begins above it. -/
def inRanges : List (Nat × Nat) → Nat → Bool
  | [], _ => false
  | (first, last) :: rest, code =>
      if code < first then false
      else if code ≤ last then true
      else inRanges rest code

theorem exists_range_of_inRanges {ranges : List (Nat × Nat)} {code : Nat}
    (within : inRanges ranges code = true) :
    ∃ range ∈ ranges, range.1 ≤ code ∧ code ≤ range.2 := by
  induction ranges with
  | nil => cases within
  | cons range rest ih =>
      rw [inRanges] at within
      split at within
      · cases within
      · split at within
        · exact ⟨range, List.mem_cons_self, by omega, by omega⟩
        · obtain ⟨other, later, bounds⟩ := ih within
          exact ⟨other, List.mem_cons_of_mem range later, bounds⟩

/-- Whether the set holds a character. -/
def RangeTable.contains (table : RangeTable) (char : Char) : Bool :=
  inRanges table.ranges char.toNat

/-- A run of a case mapping: every `step`-th code point from `first` to `last` goes to
the one that is as far above `target` as it is above `first`. -/
structure Run where
  first : Nat
  last : Nat
  step : Nat
  target : Nat

/-- The image of a code point under ascending runs, if one of them has it. -/
def mapByRuns : List Run → Nat → Option Nat
  | [], _ => none
  | run :: rest, code =>
      if code < run.first then none
      else if code ≤ run.last then
        if (code - run.first) % run.step = 0 then some (run.target + (code - run.first))
        else mapByRuns rest code
      else mapByRuns rest code

end GodotSdk.Text
