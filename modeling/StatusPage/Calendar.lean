/-!
Dates of the Gregorian calendar, extended over all years.

Days are counted from the first of January 1970. Counting goes by years that start in March, so
that the day a leap year adds is the last of its year: the day number of a date is then one sum,
and a day number is taken apart into cycles of 400, 100, 4 and 1 years and the months of one year.
-/

namespace StatusPage

/-- A day of the calendar. -/
structure Date where
  year : Int
  month : Nat
  day : Nat
  deriving DecidableEq, Repr

namespace Date

/-- Every fourth year is a leap year, save the centuries that 400 does not divide. -/
def isLeap (year : Int) : Bool :=
  year % 4 = 0 && (year % 100 ≠ 0 || year % 400 = 0)

/-- The length of a month. -/
def daysInMonth (year : Int) (month : Nat) : Nat :=
  if month = 2 then if isLeap year then 29 else 28
  else if month = 4 ∨ month = 6 ∨ month = 9 ∨ month = 11 then 30
  else 31

/-- A date that the calendar has. -/
def Valid (d : Date) : Prop :=
  1 ≤ d.month ∧ d.month ≤ 12 ∧ 1 ≤ d.day ∧ d.day ≤ daysInMonth d.year d.month

instance (d : Date) : Decidable d.Valid := by
  unfold Valid; infer_instance

/-- The days before a month in a year that starts in March, counting months from zero. -/
def daysBefore (month : Nat) : Nat :=
  (153 * month + 2) / 5

/-- The days from the first of January 1970 to a date. -/
def dayNumber (d : Date) : Int :=
  let year := if d.month ≤ 2 then d.year - 1 else d.year
  let month := (d.month + 9) % 12
  365 * year + year / 4 - year / 100 + year / 400 + (daysBefore month + d.day : Nat) - 719469

/-- The date that lies the given number of days after the first of January 1970. -/
def ofDayNumber (n : Int) : Date :=
  let shifted := n + 719468
  let inCycle := (shifted % 146097).toNat
  let century := min 3 (inCycle / 36524)
  let inCentury := inCycle - 36524 * century
  let leapCycle := inCentury / 1461
  let inLeapCycle := inCentury - 1461 * leapCycle
  let single := min 3 (inLeapCycle / 365)
  let inYear := inLeapCycle - 365 * single
  let month := (5 * inYear + 2) / 153
  let year := 400 * (shifted / 146097) + (100 * century + 4 * leapCycle + single : Nat)
  ⟨if month < 10 then year else year + 1, if month < 10 then month + 3 else month - 9,
    inYear - daysBefore month + 1⟩

example : (⟨1970, 1, 1⟩ : Date).dayNumber = 0 := by decide
example : ofDayNumber 19782 = ⟨2024, 2, 29⟩ := by decide
example : (⟨2024, 2, 29⟩ : Date).dayNumber = 19782 := by decide
example : ofDayNumber (-1) = ⟨1969, 12, 31⟩ := by decide
example : ofDayNumber (-719528) = ⟨0, 1, 1⟩ := by decide

end Date

end StatusPage
