import StatusPage.Calendar

/-!
Instants.

An instant is a second of Universal Time and the nanoseconds within it. Inside a leap second the
second is the one before and the nanoseconds go on past a thousand million, so instants in a leap
second lie between the second before it and the second after. What a text or a timestamp stands for
has leap seconds at the end of a minute only; a caller in the same process can put one after any
second. Stored instants keep microseconds: `Instant.truncate` drops the rest.
-/

namespace StatusPage

/-- The first second that an instant can lie in: the start of the year -262143. -/
def firstSecond : Int := (⟨-262143, 1, 1⟩ : Date).dayNumber * 86400

/-- The last second that an instant can lie in: the end of the year 262142. -/
def lastSecond : Int := (⟨262142, 12, 31⟩ : Date).dayNumber * 86400 + 86399

/-- The nanoseconds of one second. -/
abbrev billion : Nat := 1000000000

/-- An instant of Universal Time. -/
structure Instant where
  /-- The seconds since the start of 1970. -/
  second : Int
  /-- The nanoseconds since that second began. -/
  nano : Nat
  first_le : firstSecond ≤ second
  le_last : second ≤ lastSecond
  nano_lt : nano < 2 * billion
  deriving DecidableEq

namespace Instant

/-- The instant with the given second and nanosecond, if there is one. Only the last second of a
minute can be followed by a leap second here. -/
def ofSecond? (second : Int) (nano : Nat) : Option Instant :=
  if h : (firstSecond ≤ second ∧ second ≤ lastSecond) ∧ nano < 2 * billion ∧
      (billion ≤ nano → second % 60 = 59) then
    some ⟨second, nano, h.1.1, h.1.2, h.2.1⟩
  else none

/-- Instants are ordered by second, then by nanosecond. -/
instance : LT Instant where
  lt a b := a.second < b.second ∨ (a.second = b.second ∧ a.nano < b.nano)

instance : LE Instant where
  le a b := ¬ b < a

instance (a b : Instant) : Decidable (a < b) :=
  inferInstanceAs (Decidable (a.second < b.second ∨ (a.second = b.second ∧ a.nano < b.nano)))

instance (a b : Instant) : Decidable (a ≤ b) :=
  inferInstanceAs (Decidable (¬ b < a))

/-- The start of 1970. -/
def epoch : Instant := ⟨0, 0, by decide, by decide, by decide⟩

instance : Inhabited Instant := ⟨epoch⟩

/-- The instant without what is finer than a microsecond. -/
def truncate (t : Instant) : Instant where
  second := t.second
  nano := t.nano - t.nano % 1000
  first_le := t.first_le
  le_last := t.le_last
  nano_lt := Nat.lt_of_le_of_lt (Nat.sub_le ..) t.nano_lt

/-- The date that an instant lies in. -/
def date (t : Instant) : Date :=
  Date.ofDayNumber (t.second / 86400)

/-- The second of the day that an instant lies in. -/
def secondOfDay (t : Instant) : Nat :=
  (t.second % 86400).toNat

/-- The year that an instant lies in. -/
def year (t : Instant) : Int :=
  t.date.year

end Instant

end StatusPage
