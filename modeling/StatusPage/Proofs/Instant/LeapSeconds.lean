import Mathlib
import StatusPage.Instant.Reader
import StatusPage.Instant.Written

/-!
# Leap seconds

An instant with a thousand million nanoseconds or more is in a leap second, and a text shows it as
the second after the one it lies in. At the end of a minute this is second 60, which no other second
is shown as. After any other second it is the next second of the minute, and a reader cannot tell
the two apart: what a text stands for is the instant settled into the second that is shown
(`Instant.settle`), which has the same text (`text_settle`). The readers know leap seconds at the
end of a minute only, so what they read is `Regular`, and `settle` leaves nothing else as it is
(`settle_eq_self_iff`). What the store keeps of an instant is settled too (`Instant.kept`): it is
the instant in whole microseconds exactly for regular instants (`kept_eq_truncate_iff`).
-/

namespace StatusPage

theorem lastSecond_mod : lastSecond % 60 = 59 := by decide

namespace Instant

/-- The instant is in no leap second, or in one at the end of a minute. -/
def Regular (t : Instant) : Prop :=
  billion ≤ t.nano → t.second % 60 = 59

instance (t : Instant) : Decidable t.Regular :=
  inferInstanceAs (Decidable (billion ≤ t.nano → t.second % 60 = 59))

/-- The regular instant that is shown alike. -/
def settle (t : Instant) : Instant :=
  if regular : t.Regular then t
  else
    { second := t.second + 1
      nano := t.nano - billion
      first_le := by have := t.first_le; omega
      -- The last second of all is the last one of a minute.
      le_last := by
        have := t.le_last
        have := lastSecond_mod
        simp only [Regular, not_forall] at regular
        obtain ⟨-, within⟩ := regular
        omega
      nano_lt := by have := t.nano_lt; omega }

/-- What the store keeps of an instant. -/
def kept (t : Instant) : Instant :=
  t.truncate.settle

variable {t : Instant}

/-! ## The settled instant -/

theorem not_regular : ¬ t.Regular ↔ billion ≤ t.nano ∧ t.second % 60 ≠ 59 :=
  Classical.not_imp

theorem settle_of_regular (regular : t.Regular) : t.settle = t :=
  dif_pos regular

theorem second_settle (irregular : ¬ t.Regular) : t.settle.second = t.second + 1 := by
  rw [settle, dif_neg irregular]

theorem nano_settle (irregular : ¬ t.Regular) : t.settle.nano = t.nano - billion := by
  rw [settle, dif_neg irregular]

theorem regular_settle (t : Instant) : t.settle.Regular := by
  by_cases regular : t.Regular
  · rwa [settle_of_regular regular]
  · intro leap
    rw [nano_settle regular] at leap
    have := t.nano_lt
    omega

/-- Only regular instants stay as they are. -/
theorem settle_eq_self_iff : t.settle = t ↔ t.Regular :=
  ⟨fun same => same ▸ t.regular_settle, settle_of_regular⟩

theorem map_settle_eq_self_iff {asked : Option Instant} :
    asked.map settle = asked ↔ ∀ t ∈ asked, t.Regular := by
  cases asked <;> simp [settle_eq_self_iff]

/-! ## Whole microseconds -/

theorem truncate_truncate (t : Instant) : t.truncate.truncate = t.truncate := by
  have whole : (t.nano - t.nano % 1000) % 1000 = 0 := by omega
  simp only [truncate, whole, Nat.sub_zero]

/-- Whole microseconds make no difference to where a leap second lies. -/
theorem regular_truncate : t.truncate.Regular ↔ t.Regular := by
  have leap : billion ≤ t.nano - t.nano % 1000 ↔ billion ≤ t.nano := by
    simp only [billion]
    omega
  simp only [Regular, truncate, leap]

theorem truncate_settle (t : Instant) : t.settle.truncate = t.kept := by
  rw [kept]
  by_cases regular : t.Regular
  · rw [settle_of_regular regular, settle_of_regular (regular_truncate.2 regular)]
  · have irregular := regular_truncate.not.2 regular
    have leap := (not_regular.1 regular).1
    have micros : t.nano - billion - (t.nano - billion) % 1000 =
        t.nano - t.nano % 1000 - billion := by
      simp only [billion] at leap ⊢
      omega
    rw [settle, settle, dif_neg regular, dif_neg irregular]
    simp only [truncate, micros]

theorem regular_kept (t : Instant) : t.kept.Regular :=
  t.truncate.regular_settle

theorem kept_of_regular (regular : t.Regular) : t.kept = t.truncate :=
  settle_of_regular (regular_truncate.2 regular)

/-- The store keeps whole microseconds of an instant, and for regular instants alone nothing else
of it is lost. -/
theorem kept_eq_truncate_iff : t.kept = t.truncate ↔ t.Regular :=
  settle_eq_self_iff.trans regular_truncate

theorem kept_truncate (t : Instant) : t.truncate.kept = t.kept := by
  rw [kept, truncate_truncate, kept]

theorem truncate_kept (t : Instant) : t.kept.truncate = t.kept := by
  rw [kept, truncate_settle, kept_truncate, kept]

theorem kept_kept (t : Instant) : t.kept.kept = t.kept := by
  rw [kept_of_regular t.regular_kept, truncate_kept]

/-! ## Equal texts -/

/-- A leap second inside a minute is shown in the minute it lies in. -/
theorem second_settle_div (t : Instant) : t.settle.second / 60 = t.second / 60 := by
  by_cases regular : t.Regular
  · rw [settle_of_regular regular]
  · rw [second_settle regular]
    have within := (not_regular.1 regular).2
    omega

theorem date_settle (t : Instant) : t.settle.date = t.date := by
  have minute := t.second_settle_div
  have day : t.settle.second / 86400 = t.second / 86400 := by omega
  rw [date, day, date]

theorem year_settle (t : Instant) : t.settle.year = t.year := by
  rw [year, date_settle, year]

/-- The year has nothing to do with what is finer than a microsecond. -/
theorem year_truncate (t : Instant) : t.truncate.year = t.year := rfl

theorem year_kept (t : Instant) : t.kept.year = t.year := by
  rw [kept, year_settle, year_truncate]

theorem minuteOfDay_settle (t : Instant) : t.settle.secondOfDay / 60 = t.secondOfDay / 60 := by
  have minute := t.second_settle_div
  simp only [secondOfDay]
  omega

theorem hour_settle (t : Instant) : t.settle.secondOfDay / 3600 = t.secondOfDay / 3600 := by
  have minute := t.minuteOfDay_settle
  omega

theorem clockSecond_settle (t : Instant) : t.settle.clockSecond = t.clockSecond := by
  by_cases regular : t.Regular
  · rw [settle_of_regular regular]
  · have minute := t.minuteOfDay_settle
    obtain ⟨leap, within⟩ := not_regular.1 regular
    have bound := t.nano_lt
    simp only [clockSecond, secondOfDay, second_settle regular, nano_settle regular, billion] at *
    omega

theorem clockNano_settle (t : Instant) : t.settle.clockNano = t.clockNano := by
  by_cases regular : t.Regular
  · rw [settle_of_regular regular]
  · have leap := (not_regular.1 regular).1
    rw [clockNano, nano_settle regular, clockNano, Nat.mod_eq_sub_mod leap]

theorem clockDigits_settle (t : Instant) : t.settle.clockDigits = t.clockDigits := by
  rw [clockDigits, hour_settle, minuteOfDay_settle, clockSecond_settle, clockDigits]

theorem text_settle (t : Instant) : t.settle.text = t.text := by
  rw [text, date_settle, clockDigits_settle, clockNano_settle, text]

theorem storedText_settle (t : Instant) : t.settle.storedText = t.storedText := by
  rw [storedText, date_settle, clockDigits_settle, clockNano_settle, storedText]

/-- An instant in whole microseconds is kept in the text that it was read from. -/
theorem storedText_truncate (t : Instant) : t.truncate.storedText = t.storedText := by
  have second : t.truncate.clockSecond = t.clockSecond := by
    have quotient : (t.nano - t.nano % 1000) / billion = t.nano / billion := by
      simp only [billion]
      omega
    exact congrArg (t.secondOfDay % 60 + ·) quotient
  have micro : t.truncate.clockNano / 1000 = t.clockNano / 1000 := by
    simp only [clockNano, truncate, billion]
    omega
  have clock : t.truncate.clockDigits = t.clockDigits := by
    rw [clockDigits, second]
    rfl
  rw [storedText, clock, micro]
  rfl

theorem storedText_kept (t : Instant) : t.kept.storedText = t.storedText := by
  rw [kept, storedText_settle, storedText_truncate]

/-- An instant in a leap second inside a minute. -/
def insideMinute : Instant :=
  ⟨12, 1900000000, by decide, by decide, by decide⟩

/-- An instant after it, in the second that it is shown as. -/
def halfPastThirteen : Instant :=
  ⟨13, 500000000, by decide, by decide, by decide⟩

example : insideMinute < halfPastThirteen := by decide
example : insideMinute.storedText = "1970-01-01T00:00:13.900000Z" := by decide
example : insideMinute.settle = ⟨13, 900000000, by decide, by decide, by decide⟩ := by decide

/-! ## What is read -/

/-- Readers know no other leap seconds than those at the end of a minute. -/
theorem regular_of_ofSecond? {second : Int} {nano : Nat} (read : ofSecond? second nano = some t) :
    t.Regular := by
  unfold ofSecond? at read
  split at read
  · next bounds =>
    cases read
    exact bounds.2.2
  · cases read

end Instant

end StatusPage
