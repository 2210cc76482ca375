/-!
# Points in time

Dates of the Gregorian calendar, extended to all years within a wide range, and points
in time in UTC. A leap second counts as a part of the second before it, so that it has a
place of its own in the order of time.
-/

namespace GodotSdk

/-- Whether a year has a twenty-ninth of February. -/
def isLeapYear (year : Int) : Bool :=
  year % 4 = 0 && (year % 100 != 0 || year % 400 = 0)

def daysInMonth (year : Int) (month : Nat) : Nat :=
  if month = 2 then if isLeapYear year then 29 else 28
  else if month = 4 || month = 6 || month = 9 || month = 11 then 30
  else 31

/-- Whether a year, month and day make a date of the calendar. -/
def isDate (year : Int) (month day : Nat) : Bool :=
  -262143 ≤ year && year ≤ 262142 && 1 ≤ month && month ≤ 12 && 1 ≤ day &&
    day ≤ daysInMonth year month

structure Date where
  year : Int
  month : Nat
  day : Nat
  valid : isDate year month day = true
deriving DecidableEq, Repr

namespace Date

def of? (year : Int) (month day : Nat) : Option Date :=
  if valid : isDate year month day = true then some ⟨year, month, day, valid⟩ else none

/-- The day after a date. -/
def next? (date : Date) : Option Date :=
  if date.day < daysInMonth date.year date.month then
    of? date.year date.month (date.day + 1)
  else if date.month < 12 then of? date.year (date.month + 1) 1
  else of? (date.year + 1) 1 1

/-- The day before a date. -/
def previous? (date : Date) : Option Date :=
  if 1 < date.day then of? date.year date.month (date.day - 1)
  else if 1 < date.month then
    of? date.year (date.month - 1) (daysInMonth date.year (date.month - 1))
  else of? (date.year - 1) 12 31

end Date

/-- Whether a second of the day and a count of nanoseconds make a time of the day. A
whole second more of nanoseconds marks a leap second, at the end of a minute. -/
def isTimeOfDay (second nano : Nat) : Bool :=
  second < 86400 && (nano < 1000000000 || (nano < 2000000000 && second % 60 = 59))

/-- A point in time in UTC: a date, a second of that day and nanoseconds. -/
structure Timestamp where
  date : Date
  second : Nat
  nano : Nat
  valid : isTimeOfDay second nano = true
deriving DecidableEq, Repr

namespace Timestamp

def of? (date : Date) (second nano : Nat) : Option Timestamp :=
  if valid : isTimeOfDay second nano = true then
    some ⟨date, second, nano, valid⟩ else none

/-- The numbers that order points in time, the most important one first. -/
def order (time : Timestamp) : List Int :=
  [time.date.year, time.date.month, time.date.day, time.second, time.nano]

/-- Whether one point in time comes before another. -/
def before (left right : Timestamp) : Bool :=
  left.order < right.order

/-- The point in time whose clock reads `time` where clocks are `minutes` ahead of
UTC. -/
def fromOffset? (time : Timestamp) (minutes : Int) : Option Timestamp :=
  let second : Int := (time.second : Int) - 60 * minutes
  if second < 0 then time.date.previous?.bind (of? · (second + 86400).toNat time.nano)
  else if second < 86400 then of? time.date second.toNat time.nano
  else time.date.next?.bind (of? · (second - 86400).toNat time.nano)

end Timestamp

end GodotSdk
