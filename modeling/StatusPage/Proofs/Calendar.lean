import Mathlib
import StatusPage.Calendar

/-!
# Days and dates

A day number taken apart is a date that the calendar has, and the date has that day number
(`valid_ofDayNumber`, `dayNumber_ofDayNumber`). Dates of the calendar come in the order of their
day numbers (`dayNumber_lt_iff`), so instants can be compared field by field.
-/

namespace StatusPage.Date

/-! ## Years that start in March -/

/-- The days before a year that starts in March. -/
def yearStart (year : Int) : Int :=
  365 * year + year / 4 - year / 100 + year / 400

/-- A year that starts in March has 365 days, and one more if its February is in a leap year. -/
theorem yearStart_succ (year : Int) :
    yearStart (year + 1) = yearStart year + 365 + if isLeap (year + 1) then 1 else 0 := by
  have fours : (year + 1) / 4 = year / 4 + if (year + 1) % 4 = 0 then 1 else 0 := by
    split <;> omega
  have hundreds : (year + 1) / 100 = year / 100 + if (year + 1) % 100 = 0 then 1 else 0 := by
    split <;> omega
  have cycles : (year + 1) / 400 = year / 400 + if (year + 1) % 400 = 0 then 1 else 0 := by
    split <;> omega
  simp only [yearStart, fours, hundreds, cycles, isLeap, Bool.and_eq_true, Bool.or_eq_true,
    decide_eq_true_eq]
  split <;> split <;> split <;> split <;> omega

theorem yearStart_add_le {year later : Int} (before : year < later) :
    yearStart year + 365 ≤ yearStart later := by
  simp only [yearStart]
  omega

/-- The year that starts in March in which a date lies. -/
def marchYear (d : Date) : Int :=
  if d.month ≤ 2 then d.year - 1 else d.year

/-- The month of a date, counted from zero in a year that starts in March. -/
def marchMonth (d : Date) : Nat :=
  (d.month + 9) % 12

theorem dayNumber_eq (d : Date) :
    d.dayNumber =
      yearStart d.marchYear + (daysBefore d.marchMonth + d.day : Nat) - 719469 := rfl

/-- A month other than February is as long as its place in a year that starts in March says. -/
theorem daysBefore_add_daysInMonth {month : Nat} (month_ge : 1 ≤ month) (month_le : month ≤ 12)
    (not_february : month ≠ 2) (year : Int) :
    daysBefore ((month + 9) % 12) + daysInMonth year month =
      daysBefore ((month + 9) % 12 + 1) := by
  rw [daysInMonth, if_neg not_february]
  interval_cases month <;> first | rfl | exact absurd rfl not_february

theorem daysInMonth_february (year : Int) :
    daysInMonth year 2 = 28 + if isLeap year then 1 else 0 := by
  rw [daysInMonth, if_pos rfl]
  split <;> rfl

/-! ## A day number taken apart -/

/-- The year, the month and the day in the year that a day number is taken apart into. -/
theorem exists_ofDayNumber (n : Int) :
    ∃ (year : Int) (month day : Nat),
      ofDayNumber n =
        ⟨if month < 10 then year else year + 1, if month < 10 then month + 3 else month - 9,
          day - daysBefore month + 1⟩ ∧
      yearStart year + day = n + 719468 ∧
      month ≤ 11 ∧ daysBefore month ≤ day ∧ day < daysBefore (month + 1) ∧
      day < 365 + if isLeap (year + 1) then 1 else 0 := by
  simp only [ofDayNumber]
  have shifted_eq := Int.mul_ediv_add_emod (n + 719468) 146097
  have inCycle_eq : ((n + 719468) % 146097).toNat = (n + 719468) % 146097 := by omega
  have inCycle_lt : ((n + 719468) % 146097).toNat < 146097 := by omega
  rw [← inCycle_eq] at shifted_eq
  clear inCycle_eq
  generalize (n + 719468) / 146097 = cycle at shifted_eq ⊢
  generalize ((n + 719468) % 146097).toNat = inCycle at shifted_eq inCycle_lt ⊢
  -- The last century of a cycle and the last year of four are a day longer.
  have century_eq : inCycle = 36524 * min 3 (inCycle / 36524) +
      (inCycle - 36524 * min 3 (inCycle / 36524)) := by omega
  have century_le : min 3 (inCycle / 36524) ≤ 3 := by omega
  have inCentury_lt : inCycle - 36524 * min 3 (inCycle / 36524) <
      36524 + if min 3 (inCycle / 36524) = 3 then 1 else 0 := by split <;> omega
  generalize min 3 (inCycle / 36524) = century at century_eq century_le inCentury_lt ⊢
  generalize inCycle - 36524 * century = inCentury at century_eq inCentury_lt ⊢
  have leapCycle_eq : inCentury = 1461 * (inCentury / 1461) +
      (inCentury - 1461 * (inCentury / 1461)) := by omega
  have leapCycle_le : inCentury / 1461 ≤ 24 := by split at inCentury_lt <;> omega
  have inLeapCycle_lt : inCentury - 1461 * (inCentury / 1461) < 1461 := by omega
  generalize inCentury / 1461 = leapCycle at leapCycle_eq leapCycle_le inLeapCycle_lt ⊢
  generalize inCentury - 1461 * leapCycle = inLeapCycle at leapCycle_eq inLeapCycle_lt ⊢
  have single_eq : inLeapCycle = 365 * min 3 (inLeapCycle / 365) +
      (inLeapCycle - 365 * min 3 (inLeapCycle / 365)) := by omega
  have single_le : min 3 (inLeapCycle / 365) ≤ 3 := by omega
  have inYear_lt : inLeapCycle - 365 * min 3 (inLeapCycle / 365) <
      365 + if min 3 (inLeapCycle / 365) = 3 then 1 else 0 := by split <;> omega
  generalize min 3 (inLeapCycle / 365) = single at single_eq single_le inYear_lt ⊢
  generalize inLeapCycle - 365 * single = inYear at single_eq inYear_lt ⊢
  refine ⟨400 * cycle + (100 * century + 4 * leapCycle + single : Nat), (5 * inYear + 2) / 153,
    inYear, rfl, ?_, ?_, ?_, ?_, ?_⟩
  · have fours : (400 * cycle + (100 * century + 4 * leapCycle + single : Nat)) / 4 =
        100 * cycle + 25 * century + leapCycle := by omega
    have hundreds : (400 * cycle + (100 * century + 4 * leapCycle + single : Nat)) / 100 =
        4 * cycle + century := by omega
    have cycles : (400 * cycle + (100 * century + 4 * leapCycle + single : Nat)) / 400 = cycle := by
      omega
    rw [yearStart, fours, hundreds, cycles]
    omega
  · split at inYear_lt <;> omega
  · simp only [daysBefore]
    omega
  · simp only [daysBefore]
    omega
  · simp only [isLeap, Bool.and_eq_true, Bool.or_eq_true, decide_eq_true_eq]
    split at inYear_lt <;> split at inCentury_lt <;> split <;> omega

/-- A day number taken apart is a date of the calendar. -/
theorem valid_ofDayNumber (n : Int) : (ofDayNumber n).Valid := by
  obtain ⟨year, month, day, date, -, month_le, day_ge, day_lt, inYear_lt⟩ := exists_ofDayNumber n
  rw [date]
  rcases Nat.lt_or_ge month 10 with spring | winter
  · have length := daysBefore_add_daysInMonth (show 1 ≤ month + 3 by omega) (by omega) (by omega)
      year
    rw [show (month + 3 + 9) % 12 = month by omega] at length
    simp only [Valid, spring, if_true]
    omega
  · obtain rfl | rfl : month = 10 ∨ month = 11 := by omega
    · have length := daysBefore_add_daysInMonth (Nat.le_refl 1) (by omega) (by omega) (year + 1)
      simp only [Valid, Nat.lt_irrefl, if_false, Nat.reduceSub]
      simp only [Nat.reduceAdd, Nat.reduceMod] at length day_lt
      omega
    · have before : daysBefore 11 = 337 := rfl
      simp only [Valid, Nat.reduceLT, if_false, Nat.reduceSub, daysInMonth_february]
      omega

/-- The date that a day number is taken apart into has that day number. -/
theorem dayNumber_ofDayNumber (n : Int) : (ofDayNumber n).dayNumber = n := by
  obtain ⟨year, month, day, date, start, month_le, day_ge, -, -⟩ := exists_ofDayNumber n
  have marchYear_eq : (ofDayNumber n).marchYear = year := by
    simp only [date, marchYear]
    split <;> split <;> omega
  have marchMonth_eq : (ofDayNumber n).marchMonth = month := by
    simp only [date, marchMonth]
    split <;> omega
  have day_eq : (ofDayNumber n).day = day - daysBefore month + 1 := by rw [date]
  rw [dayNumber_eq, marchYear_eq, marchMonth_eq, day_eq]
  omega

/-! ## Order -/

/-- Whether a date comes before another: by year, then by month, then by day. -/
def Before (a b : Date) : Prop :=
  a.year < b.year ∨ (a.year = b.year ∧ (a.month < b.month ∨ (a.month = b.month ∧ a.day < b.day)))

/-- The days of a month end before those of the next one begin. -/
theorem daysBefore_add_day_le {d : Date} (valid : d.Valid) (inYear : d.marchMonth ≤ 10) :
    daysBefore d.marchMonth + d.day ≤ daysBefore (d.marchMonth + 1) := by
  obtain ⟨month_ge, month_le, -, day_le⟩ := valid
  have not_february : d.month ≠ 2 := fun february => by
    simp [marchMonth, february] at inYear
  have length := daysBefore_add_daysInMonth month_ge month_le not_february d.year
  simp only [marchMonth]
  omega

/-- The days of a year that starts in March end before those of the next one begin. -/
theorem yearStart_add_day_le {d : Date} (valid : d.Valid) :
    yearStart d.marchYear + (daysBefore d.marchMonth + d.day : Nat) ≤
      yearStart (d.marchYear + 1) := by
  rw [yearStart_succ]
  rcases Nat.lt_or_ge d.marchMonth 11 with early | late
  · have inMonth := daysBefore_add_day_le valid (by omega)
    have inYear : daysBefore (d.marchMonth + 1) ≤ 337 := by
      simp only [daysBefore]
      omega
    omega
  · obtain ⟨month_ge, month_le, -, day_le⟩ := valid
    have february : d.month = 2 := by
      simp only [marchMonth] at late
      omega
    have year_eq : d.marchYear + 1 = d.year := by
      simp [marchYear, february]
    have before : daysBefore d.marchMonth = 337 := by
      simp [marchMonth, february, daysBefore]
    rw [february, daysInMonth_february] at day_le
    rw [before, year_eq]
    split at day_le <;> simp_all <;> omega

theorem dayNumber_lt_of_before {a b : Date} (valid_a : a.Valid) (valid_b : b.Valid)
    (before : a.Before b) : a.dayNumber < b.dayNumber := by
  have end_a := yearStart_add_day_le valid_a
  have inMonth_a := daysBefore_add_day_le valid_a
  obtain ⟨month_ge_a, month_le_a, -, -⟩ := valid_a
  obtain ⟨month_ge_b, month_le_b, day_pos, -⟩ := valid_b
  rw [dayNumber_eq, dayNumber_eq]
  have march : a.marchYear < b.marchYear ∨ (a.marchYear = b.marchYear ∧
      (a.marchMonth < b.marchMonth ∨ (a.marchMonth = b.marchMonth ∧ a.day < b.day))) := by
    simp only [Before] at before
    simp only [marchYear, marchMonth]
    split <;> split <;> omega
  rcases march with year | ⟨year, month | ⟨month, day⟩⟩
  · have later : yearStart (a.marchYear + 1) ≤ yearStart b.marchYear := by
      rcases Int.lt_or_eq_of_le (show a.marchYear + 1 ≤ b.marchYear by omega) with gap | next
      · have := yearStart_add_le gap
        omega
      · rw [next]
    omega
  · have later : daysBefore (a.marchMonth + 1) ≤ daysBefore b.marchMonth := by
      simp only [daysBefore]
      omega
    have month_le : a.marchMonth ≤ 10 := by
      simp only [marchMonth] at month ⊢
      omega
    have inMonth := inMonth_a month_le
    rw [year]
    omega
  · rw [year, month]
    omega

/-- Dates of the calendar come in the order of their day numbers. -/
theorem dayNumber_lt_iff {a b : Date} (valid_a : a.Valid) (valid_b : b.Valid) :
    a.dayNumber < b.dayNumber ↔ a.Before b := by
  constructor
  · intro less
    by_contra not_before
    have after_or_same : b.Before a ∨ b = a := by
      cases a
      cases b
      simp only [Before, Date.mk.injEq] at not_before ⊢
      omega
    rcases after_or_same with after | rfl
    · exact absurd (dayNumber_lt_of_before valid_b valid_a after) (by omega)
    · omega
  · exact dayNumber_lt_of_before valid_a valid_b

end StatusPage.Date
