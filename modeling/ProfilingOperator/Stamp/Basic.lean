/-!
# Stamps and the calendar

A stamp is a moment in universal time, as seconds since the start of 1970 and nanoseconds into the second.  A leap
second is the second before it with more than `10 ^ 9` nanoseconds.  Dates follow the proleptic Gregorian calendar.

    dayNumber 1970 1 1 = 0, dateOfDay (dayNumber 2024 2 29) = ⟨2024, 2, 29⟩
-/

namespace ProfilingOperator

/-- A moment in universal time. -/
structure Stamp where
  /-- Whole seconds since the start of 1970. -/
  second : Int
  /-- Nanoseconds into the second; `10 ^ 9` and more within a leap second. -/
  nano : Nat
  deriving DecidableEq, Repr

namespace Stamp

/-- A calendar date. -/
structure Date where
  year : Int
  month : Nat
  day : Nat
  deriving DecidableEq, Repr

/-- Whether a year has a 29th of February. -/
def isLeapYear (y : Int) : Bool :=
  y % 4 = 0 && (y % 100 ≠ 0 || y % 400 = 0)

def monthLength (y : Int) (m : Nat) : Nat :=
  if m = 2 then (if isLeapYear y then 29 else 28)
  else if m = 4 ∨ m = 6 ∨ m = 9 ∨ m = 11 then 30
  else 31

/-- The days from the start of 1970 to a date.  Years are counted from March, so that a leap day ends its year, and
in cycles of four hundred. -/
def dayNumber (y : Int) (m d : Nat) : Int :=
  let y := if m ≤ 2 then y - 1 else y
  let cycle := y / 400
  let yearOfCycle := y - cycle * 400
  let month : Int := if m ≤ 2 then m + 9 else (m : Int) - 3
  let dayOfYear := (153 * month + 2) / 5 + d - 1
  let dayOfCycle := yearOfCycle * 365 + yearOfCycle / 4 - yearOfCycle / 100 + dayOfYear
  cycle * 146097 + dayOfCycle - 719468

/-- The date a number of days after the start of 1970. -/
def dateOfDay (n : Int) : Date :=
  let z := n + 719468
  let cycle := z / 146097
  let dayOfCycle := z - cycle * 146097
  let yearOfCycle :=
    (dayOfCycle - dayOfCycle / 1460 + dayOfCycle / 36524 - dayOfCycle / 146096) / 365
  let dayOfYear := dayOfCycle - (365 * yearOfCycle + yearOfCycle / 4 - yearOfCycle / 100)
  let month := (5 * dayOfYear + 2) / 153
  let day := dayOfYear - (153 * month + 2) / 5 + 1
  let m := if month < 10 then month + 3 else month - 9
  ⟨yearOfCycle + cycle * 400 + (if m ≤ 2 then 1 else 0), m.toNat, day.toNat⟩

/-! ## Lemmas -/

example : dayNumber 1970 1 1 = 0 := by decide

example : dateOfDay (dayNumber 2024 2 29) = ⟨2024, 2, 29⟩ := by decide

example : dateOfDay (dayNumber (-1) 12 31) = ⟨-1, 12, 31⟩ := by decide

end Stamp

end ProfilingOperator
