import StatusPage.Instant
import StatusPage.Text.Digits

/-!
Written instants.

Three forms are in use. Answers carry the date, a `T`, the clock time with no more fraction digits
than needed in groups of three, and a `Z`. The store keeps the same with exactly six digits, so that
texts of four-digit years have one width and their order is the order of the instants. Messages
show a blank for the `T` and `UTC` for the `Z`. A leap second is written as second 60, and a year
that has not four digits carries a sign.
-/

namespace StatusPage.Instant

open Text

/-- A year in four digits, or with a sign and at least four. -/
def yearDigits (year : Int) : List Char :=
  if 0 ≤ year ∧ year ≤ 9999 then fixedDigits 10 4 year.toNat
  else (if year < 0 then '-' else '+') :: paddedDigits 4 year.natAbs

/-- A date as year, month and day. -/
def dateDigits (d : Date) : List Char :=
  yearDigits d.year ++ '-' :: fixedDigits 10 2 d.month ++ '-' :: fixedDigits 10 2 d.day

/-- The second shown on the clock: 60 inside a leap second. -/
def clockSecond (t : Instant) : Nat :=
  t.secondOfDay % 60 + t.nano / billion

/-- The nanoseconds shown on the clock. -/
def clockNano (t : Instant) : Nat :=
  t.nano % billion

/-- The clock time in hours, minutes and seconds. -/
def clockDigits (t : Instant) : List Char :=
  fixedDigits 10 2 (t.secondOfDay / 3600) ++ ':' :: fixedDigits 10 2 (t.secondOfDay / 60 % 60) ++
    ':' :: fixedDigits 10 2 t.clockSecond

/-- A fraction of a second in the fewest groups of three digits. -/
def fraction (nano : Nat) : List Char :=
  if nano = 0 then []
  else if nano % 1000000 = 0 then '.' :: fixedDigits 10 3 (nano / 1000000)
  else if nano % 1000 = 0 then '.' :: fixedDigits 10 6 (nano / 1000)
  else '.' :: fixedDigits 10 9 nano

/-- The form that answers carry. -/
def text (t : Instant) : String :=
  String.ofList (dateDigits t.date ++ 'T' :: t.clockDigits ++ fraction t.clockNano ++ ['Z'])

/-- The form that the store keeps. -/
def storedText (t : Instant) : String :=
  String.ofList
    (dateDigits t.date ++ 'T' :: t.clockDigits ++ '.' :: fixedDigits 10 6 (t.clockNano / 1000) ++
      ['Z'])

/-- The form that messages show. -/
def shown (t : Instant) : String :=
  String.ofList
    (dateDigits t.date ++ ' ' :: t.clockDigits ++ fraction t.clockNano ++ [' ', 'U', 'T', 'C'])

example : epoch.text = "1970-01-01T00:00:00Z" := by decide
example : epoch.storedText = "1970-01-01T00:00:00.000000Z" := by decide

end StatusPage.Instant
