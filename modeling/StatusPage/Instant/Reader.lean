import StatusPage.Instant
import StatusPage.Text.Blank
import StatusPage.Text.Digits

/-!
Reading instants.

`Instant.parse?` reads what callers send: numbers may drop leading zeros, white space may stand
between the parts, a year may carry a sign and then any number of digits, and the zone may be
`UTC`. `Instant.ofStored` reads what the store keeps: every number in its full width, four digits
for the year, and an answer that says what is wrong first. Both take any offset below a day and a
second 60 at any minute.
-/

namespace StatusPage.Instant

open Text

/-- Why a text is not an instant. -/
inductive Flaw where
  | invalid
  | tooShort
  | outOfRange
  | trailing
  deriving DecidableEq, Repr

def Flaw.message : Flaw → String
  | .invalid => "input contains invalid characters"
  | .tooShort => "premature end of input"
  | .outOfRange => "input is out of range"
  | .trailing => "trailing input"

/-! ## Parts -/

/-- A reader of the front of a text: it answers what it made of it together with the rest. -/
abbrev PartReader (α : Type) := List Char → Except Flaw (α × List Char)

/-- Decimal digits. -/
def isDigit (c : Char) : Bool :=
  '0' ≤ c && c ≤ '9'

/-- The number that decimal digits show. -/
def digitsValue (cs : List Char) : Nat :=
  (ofDigits 10 cs).getD 0

/-- A number of at least `least` digits, reading no more than `most` of them. -/
def number (least most : Nat) : PartReader Nat := fun cs =>
  let digits := (cs.take most).takeWhile isDigit
  if byteLength cs < least then .error .tooShort
  else if digits.length < least then .error .invalid
  else .ok (digitsValue digits, cs.drop digits.length)

/-- A number that has to lie between two bounds. -/
def boundedNumber (least most low high : Nat) : PartReader Nat := fun cs => do
  let (value, rest) ← number least most cs
  if low ≤ value ∧ value ≤ high then .ok (value, rest) else .error .outOfRange

/-- One fixed character. -/
def mark (c : Char) : PartReader Unit
  | [] => .error .tooShort
  | d :: rest => if c = d then .ok ((), rest) else .error .invalid

/-- The mark between date and clock time. -/
def middle : PartReader Unit
  | [] => .error .tooShort
  | c :: rest => if c = 'T' ∨ c = 't' ∨ c = ' ' then .ok ((), rest) else .error .invalid

/-- A fraction of a second in nanoseconds, or nothing. Digits after the ninth do not count. -/
def fractionPart : PartReader Nat
  | '.' :: rest =>
    let digits := rest.takeWhile isDigit
    if rest = [] then .error .tooShort
    else if digits = [] then .error .invalid
    else
      let kept := digits.take 9
      .ok (digitsValue (kept.rightpad 9 '0'), rest.drop digits.length)
  | cs => .ok (0, cs)

/-- Two digits, as hours and minutes of an offset have them. -/
def twoDigits : PartReader Nat :=
  number 2 2

/-- Hours and minutes of an offset, in seconds; `separator` reads what stands between them. -/
def offsetPart (separator : PartReader Unit) : PartReader Nat := fun cs => do
  let (hours, rest) ← twoDigits cs
  let ((), rest) ← separator rest
  let (minutes, rest) ← twoDigits rest
  if minutes < 60 then .ok (hours * 3600 + minutes * 60, rest) else .error .outOfRange

/-- The offset of a zone from Universal Time, in seconds. -/
def zonePart (separator : PartReader Unit) : PartReader Int
  | [] => .error .tooShort
  | c :: rest =>
    if c = 'Z' ∨ c = 'z' then .ok (0, rest)
    else if c = '+' then (offsetPart separator rest).map fun (s, rest) => ((s : Int), rest)
    else if c = '-' ∨ c = '\u2212' then
      (offsetPart separator rest).map fun (s, rest) => (-(s : Int), rest)
    else .error .invalid

/-- The fields of a written instant. -/
structure Fields where
  date : Date
  hour : Nat
  minute : Nat
  second : Nat
  nano : Nat
  /-- The offset of the zone in seconds. -/
  offset : Int
  deriving DecidableEq, Repr

/-- The instant that the fields name: second 60 is the leap second after second 59. -/
def ofFields? (f : Fields) : Option Instant :=
  let clock := f.date.dayNumber * 86400 + (f.hour * 3600 + f.minute * 60 + min f.second 59 : Nat)
  if f.date.Valid ∧ firstSecond ≤ clock ∧ clock ≤ lastSecond ∧ f.offset.natAbs < 86400 then
    ofSecond? (clock - f.offset) (f.nano + if f.second = 60 then billion else 0)
  else none

/-! ## What callers send -/

/-- A year, with a sign and any number of digits or with up to four digits. -/
def yearPart : PartReader Int
  | '-' :: rest => (number 1 rest.length rest).map fun (y, rest) => (-(y : Int), rest)
  | '+' :: rest => (number 1 rest.length rest).map fun (y, rest) => ((y : Int), rest)
  | cs => (number 1 4 cs).map fun (y, rest) => ((y : Int), rest)

/-- Colons and white space between the hours and minutes of an offset. -/
def looseColon : PartReader Unit := fun cs =>
  .ok ((), cs.dropWhile fun c => c = ':' || isBlank c)

/-- The zone as callers write it. -/
def looseZone : PartReader Int := fun cs =>
  if (cs.take 3).map Char.toLower = ['u', 't', 'c'] then .ok (0, cs.drop 3)
  else zonePart looseColon cs

/-- The fields of an instant as callers write it. -/
def looseFields : PartReader Fields := fun cs => do
  let (year, cs) ← yearPart (trimStart cs)
  let ((), cs) ← mark '-' (trimStart cs)
  let (month, cs) ← boundedNumber 1 2 1 12 (trimStart cs)
  let ((), cs) ← mark '-' (trimStart cs)
  let (day, cs) ← boundedNumber 1 2 1 31 (trimStart cs)
  let ((), cs) ← middle cs
  let (hour, cs) ← boundedNumber 1 2 0 23 (trimStart cs)
  let ((), cs) ← mark ':' (trimStart cs)
  let (minute, cs) ← boundedNumber 1 2 0 59 (trimStart cs)
  let ((), cs) ← mark ':' (trimStart cs)
  let (second, cs) ← boundedNumber 1 2 0 60 (trimStart cs)
  let (nano, cs) ← fractionPart cs
  let (offset, cs) ← looseZone (trimStart cs)
  return (⟨⟨year, month, day⟩, hour, minute, second, nano, offset⟩, cs)

/-- Reads an instant that a caller sent. -/
def parse? (s : String) : Option Instant :=
  match looseFields s.toList with
  | .ok (fields, rest) => if trimStart rest = [] then ofFields? fields else none
  | .error _ => none

/-! ## What the store keeps -/

/-- The bytes of date and clock time in full width. -/
def clockSize : Nat := 19

/-- A date in full width, which the calendar has to have. -/
def strictDate : PartReader Date := fun cs => do
  let (year, cs) ← number 4 4 cs
  let ((), cs) ← mark '-' cs
  let (month, cs) ← twoDigits cs
  let ((), cs) ← mark '-' cs
  let (day, cs) ← twoDigits cs
  let date : Date := ⟨year, month, day⟩
  if date.Valid then .ok (date, cs) else .error .outOfRange

/-- The fields of an instant in full width. The clock is read to its end before its numbers are
looked at, so that a character out of place comes before a number out of range. -/
def strictFields : PartReader Fields := fun cs => do
  if byteLength cs < clockSize then .error .tooShort
  let (date, cs) ← strictDate cs
  let ((), cs) ← middle cs
  let (hour, cs) ← twoDigits cs
  let ((), cs) ← mark ':' cs
  let (minute, cs) ← twoDigits cs
  let ((), cs) ← mark ':' cs
  let (second, cs) ← twoDigits cs
  let (nano, cs) ← fractionPart cs
  if 24 ≤ hour ∨ 60 ≤ minute ∨ 60 < second then .error .outOfRange
  let (offset, cs) ← zonePart (mark ':') cs
  return (⟨date, hour, minute, second, nano, offset⟩, cs)

/-- Reads an instant that the store keeps. -/
def ofStored (s : String) : Except Flaw Instant :=
  match strictFields s.toList with
  | .error flaw => .error flaw
  | .ok (fields, rest) =>
    if rest ≠ [] then .error .trailing
    else match ofFields? fields with
      | some t => .ok t
      | none => .error .outOfRange

end StatusPage.Instant
