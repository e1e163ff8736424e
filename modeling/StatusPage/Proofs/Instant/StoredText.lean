import Mathlib
import StatusPage.Proofs.Calendar
import StatusPage.Proofs.Instant.LeapSeconds
import StatusPage.Proofs.Text.FixedWidth

/-!
# The order of stored instants

The store compares instants as the texts that it keeps for them. In the years 0 to 9999 these texts
have one width, and `storedText_lt_iff` says that they are ordered as what is kept of the instants,
which is what is left of them in whole microseconds as long as leap seconds lie at the end of a
minute. An instant asked about may be truncated before it is compared with a truncated bound
(`truncate_le_truncate_iff`, `truncate_lt_truncate_iff`), at either end of a window.
-/

namespace StatusPage.Instant

open Text

/-! ## The order of instants -/

theorem lt_iff {a b : Instant} :
    a < b ↔ a.second < b.second ∨ (a.second = b.second ∧ a.nano < b.nano) := Iff.rfl

theorem le_iff {a b : Instant} :
    a ≤ b ↔ a.second < b.second ∨ (a.second = b.second ∧ a.nano ≤ b.nano) := by
  have order : a ≤ b ↔ ¬ b < a := Iff.rfl
  rw [order, lt_iff]
  omega

/-- What is finer than a microsecond makes no difference after a bound in whole microseconds. -/
theorem truncate_le_truncate_iff {bound t : Instant} :
    bound.truncate ≤ t.truncate ↔ bound.truncate ≤ t := by
  simp only [le_iff, truncate]
  omega

/-- What is finer than a microsecond makes no difference before a bound in whole microseconds. -/
theorem truncate_lt_truncate_iff {bound t : Instant} :
    t.truncate < bound.truncate ↔ t < bound.truncate := by
  simp only [lt_iff, truncate]
  omega

theorem truncate_le_truncate {a b : Instant} (order : a ≤ b) : a.truncate ≤ b.truncate := by
  simp only [le_iff, truncate] at order ⊢
  omega

/-- What is finer than a microsecond makes no difference after a bound that is kept. -/
theorem kept_le_kept_iff {bound t : Instant} : bound.kept ≤ t.kept ↔ bound.kept ≤ t.settle := by
  rw [← truncate_settle, ← truncate_settle, truncate_le_truncate_iff]

/-! ## Years of four digits -/

/-- The year has four digits: the stored text has its usual width. -/
def FourDigitYear (t : Instant) : Prop :=
  0 ≤ t.year ∧ t.year ≤ 9999

instance (t : Instant) : Decidable t.FourDigitYear :=
  inferInstanceAs (Decidable (0 ≤ t.year ∧ t.year ≤ 9999))

theorem fourDigitYear_kept {t : Instant} : t.kept.FourDigitYear ↔ t.FourDigitYear := by
  rw [FourDigitYear, year_kept, FourDigitYear]

/-! ## The fields of the text -/

theorem valid_date (t : Instant) : t.date.Valid :=
  Date.valid_ofDayNumber _

theorem dayNumber_date (t : Instant) : t.date.dayNumber = t.second / 86400 :=
  Date.dayNumber_ofDayNumber _

theorem month_date_lt (t : Instant) : t.date.month < 10 ^ 2 :=
  Nat.lt_of_le_of_lt t.valid_date.2.1 (by norm_num)

theorem day_date_le (t : Instant) : t.date.day ≤ 31 := by
  have length : Date.daysInMonth t.date.year t.date.month ≤ 31 := by
    unfold Date.daysInMonth
    split <;> split <;> omega
  exact t.valid_date.2.2.2.trans length

theorem day_date_lt (t : Instant) : t.date.day < 10 ^ 2 :=
  Nat.lt_of_le_of_lt t.day_date_le (by norm_num)

theorem secondOfDay_lt (t : Instant) : t.secondOfDay < 86400 := by
  unfold secondOfDay
  omega

/-- A regular leap second comes after the last second of a minute. -/
theorem Regular.secondOfDay_mod {t : Instant} (regular : t.Regular) (leap : billion ≤ t.nano) :
    t.secondOfDay % 60 = 59 := by
  have last := regular leap
  unfold secondOfDay
  omega

theorem clockSecond_le (t : Instant) : t.clockSecond ≤ 60 := by
  have bound := t.nano_lt
  simp only [clockSecond, billion] at *
  omega

theorem clockMicro_lt (t : Instant) : t.clockNano / 1000 < 10 ^ 6 := by
  simp only [clockNano, billion]
  omega

/-- What the stored text shows after the year and its mark, field by field. -/
def withinYear (t : Instant) : List Char :=
  fixedDigits 10 2 t.date.month ++ '-' :: (fixedDigits 10 2 t.date.day ++ 'T' ::
    (fixedDigits 10 2 (t.secondOfDay / 3600) ++ ':' ::
      (fixedDigits 10 2 (t.secondOfDay / 60 % 60) ++ ':' ::
        (fixedDigits 10 2 t.clockSecond ++ '.' ::
          (fixedDigits 10 6 (t.clockNano / 1000) ++ ['Z'])))))

theorem length_withinYear (t : Instant) : t.withinYear.length = 22 := by
  simp [withinYear, length_fixedDigits]

/-- The stored text is the year and what is within it. -/
theorem toList_storedText_withinYear (t : Instant) :
    t.storedText.toList = yearDigits t.year ++ '-' :: t.withinYear := by
  simp only [storedText, dateDigits, clockDigits, withinYear, year, String.toList_ofList,
    List.append_assoc, List.cons_append]

theorem withinYear_kept (t : Instant) : t.kept.withinYear = t.withinYear := by
  have same := congrArg String.toList t.storedText_kept
  rw [toList_storedText_withinYear, toList_storedText_withinYear, year_kept] at same
  exact (List.cons.inj (List.append_cancel_left same)).2

theorem yearDigits_fourDigitYear {t : Instant} (year : t.FourDigitYear) :
    yearDigits t.year = fixedDigits 10 4 t.year.toNat :=
  if_pos year

/-- The stored text in a year of four digits, field by field. -/
theorem toList_storedText {t : Instant} (year : t.FourDigitYear) :
    t.storedText.toList =
      fixedDigits 10 4 t.year.toNat ++ '-' :: (fixedDigits 10 2 t.date.month ++ '-' ::
        (fixedDigits 10 2 t.date.day ++ 'T' :: (fixedDigits 10 2 (t.secondOfDay / 3600) ++ ':' ::
          (fixedDigits 10 2 (t.secondOfDay / 60 % 60) ++ ':' ::
            (fixedDigits 10 2 t.clockSecond ++ '.' ::
              (fixedDigits 10 6 (t.clockNano / 1000) ++ ['Z'])))))) := by
  rw [toList_storedText_withinYear, yearDigits_fourDigitYear year]
  rfl

/-! ## The order of the texts -/

theorem date_before_iff (a b : Instant) :
    a.date.Before b.date ↔ a.second / 86400 < b.second / 86400 := by
  rw [← Date.dayNumber_lt_iff a.valid_date b.valid_date, dayNumber_date, dayNumber_date]

theorem date_eq_iff (a b : Instant) : a.date = b.date ↔ a.second / 86400 = b.second / 86400 := by
  constructor
  · intro same
    rw [← dayNumber_date, ← dayNumber_date, same]
  · intro same
    rw [date, date, same]

/-- The fields of the date are ordered as the days, before anything that comes after them. -/
theorem date_lt_iff (a b : Instant) (rest : Prop) :
    (a.year < b.year ∨ (a.year = b.year ∧
      (a.date.month < b.date.month ∨ (a.date.month = b.date.month ∧
        (a.date.day < b.date.day ∨ (a.date.day = b.date.day ∧ rest)))))) ↔
      a.second / 86400 < b.second / 86400 ∨ (a.second / 86400 = b.second / 86400 ∧ rest) := by
  rw [← date_before_iff, ← date_eq_iff]
  simp only [year]
  generalize a.date = date_a
  generalize b.date = date_b
  cases date_a
  cases date_b
  simp only [Date.Before, Date.mk.injEq]
  by_cases last : rest
  · simp only [last, and_true]
    omega
  · simp only [last, and_false, or_false]

section

variable {a b : Instant} (regular_a : a.Regular) (regular_b : b.Regular)

include regular_a regular_b

/-- The fields of the clock are ordered as the second of the day and the microsecond. A leap second
is shown as second 60 only, so it comes before the minute that follows. -/
theorem clock_lt_iff :
    (a.secondOfDay / 3600 < b.secondOfDay / 3600 ∨ (a.secondOfDay / 3600 = b.secondOfDay / 3600 ∧
      (a.secondOfDay / 60 % 60 < b.secondOfDay / 60 % 60 ∨
        (a.secondOfDay / 60 % 60 = b.secondOfDay / 60 % 60 ∧
          (a.clockSecond < b.clockSecond ∨ (a.clockSecond = b.clockSecond ∧
            a.clockNano / 1000 < b.clockNano / 1000)))))) ↔
      a.secondOfDay < b.secondOfDay ∨
        (a.secondOfDay = b.secondOfDay ∧ a.truncate.nano < b.truncate.nano) := by
  have bound_a := a.nano_lt
  have bound_b := b.nano_lt
  have leap_a := regular_a.secondOfDay_mod
  have leap_b := regular_b.secondOfDay_mod
  simp only [clockSecond, clockNano, truncate, billion] at *
  omega

/-- Within the year, texts are ordered field by field. -/
theorem withinYear_lt_iff :
    a.withinYear < b.withinYear ↔
      a.date.month < b.date.month ∨ (a.date.month = b.date.month ∧
        (a.date.day < b.date.day ∨ (a.date.day = b.date.day ∧
          (a.secondOfDay < b.secondOfDay ∨
            (a.secondOfDay = b.secondOfDay ∧ a.truncate.nano < b.truncate.nano))))) := by
  have hour (t : Instant) : t.secondOfDay / 3600 < 10 ^ 2 := by
    have := t.secondOfDay_lt
    omega
  have minute (t : Instant) : t.secondOfDay / 60 % 60 < 10 ^ 2 := by omega
  have second (t : Instant) : t.clockSecond < 10 ^ 2 :=
    Nat.lt_of_le_of_lt t.clockSecond_le (by norm_num)
  rw [withinYear, withinYear,
    decimal_append_lt_iff a.month_date_lt b.month_date_lt,
    decimal_append_lt_iff a.day_date_lt b.day_date_lt,
    decimal_append_lt_iff (hour a) (hour b),
    decimal_append_lt_iff (minute a) (minute b),
    decimal_append_lt_iff (second a) (second b),
    decimal_append_lt_iff a.clockMicro_lt b.clockMicro_lt]
  simp only [List.lt_irrefl, and_false, or_false, clock_lt_iff regular_a regular_b]

/-- Instants come in the order of their years, and within a year in the order of its texts. -/
theorem truncate_lt_truncate_iff_year :
    a.truncate < b.truncate ↔
      a.year < b.year ∨ (a.year = b.year ∧ a.withinYear < b.withinYear) := by
  rw [withinYear_lt_iff regular_a regular_b, date_lt_iff, lt_iff]
  simp only [secondOfDay, truncate]
  omega

end

/-- What is kept of instants comes in the order of the years, and within a year in the order of its
texts. -/
theorem kept_lt_kept_iff_year (a b : Instant) :
    a.kept < b.kept ↔ a.year < b.year ∨ (a.year = b.year ∧ a.withinYear < b.withinYear) := by
  have order := truncate_lt_truncate_iff_year a.regular_kept b.regular_kept
  rwa [truncate_kept, truncate_kept, year_kept, year_kept, withinYear_kept, withinYear_kept]
    at order

/-- Texts of the store are ordered as what is kept of the instants. -/
theorem storedText_lt_iff {a b : Instant} (year_a : a.FourDigitYear) (year_b : b.FourDigitYear) :
    a.storedText < b.storedText ↔ a.kept < b.kept := by
  rw [String.lt_iff, toList_storedText_withinYear, toList_storedText_withinYear,
    yearDigits_fourDigitYear year_a, yearDigits_fourDigitYear year_b, kept_lt_kept_iff_year]
  simp only [FourDigitYear] at year_a year_b
  have less : a.year.toNat < b.year.toNat ↔ a.year < b.year := by omega
  have same : a.year.toNat = b.year.toNat ↔ a.year = b.year := by omega
  rw [decimal_append_lt_iff (by omega) (by omega), less, same]

theorem storedText_le_iff {a b : Instant} (year_a : a.FourDigitYear) (year_b : b.FourDigitYear) :
    a.storedText ≤ b.storedText ↔ a.kept ≤ b.kept :=
  (storedText_lt_iff year_b year_a).not

end StatusPage.Instant
