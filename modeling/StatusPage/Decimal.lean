import StatusPage.Text.Digits

/-!
Decimal numbers of bounded size.

A reader of numbers keeps only so many digits: `Decimal.ofDigits` takes digits into the significand
as long as they fit and lets those that do not only move the point.
-/

namespace StatusPage

open Text

/-- The number `significand · 10 ^ exponent`. -/
structure Decimal where
  significand : Nat
  exponent : Int
  deriving DecidableEq, Repr

namespace Decimal

/-- Takes digits into a significand up to the first that does not fit, and gives the digits that
are left over. -/
def takeFitting (fits : Nat → Nat → Bool) : Nat → List Char → Nat × List Char
  | acc, [] => (acc, [])
  | acc, c :: cs =>
    let digit := (digitValue? 10 c).getD 0
    if fits acc digit then takeFitting fits (acc * 10 + digit) cs else (acc, c :: cs)

/-- The number that the digits before and after a point show, times a power of ten. A digit that
does not fit counts as zero, and after the point not at all. -/
def ofDigits (fits : Nat → Nat → Bool) (whole places : List Char) (exponent : Int) : Decimal :=
  let (high, dropped) := takeFitting fits 0 whole
  let (significand, unread) := takeFitting fits high places
  ⟨significand, exponent + dropped.length - (places.length - unread.length : Nat)⟩

example : ofDigits (fun acc _ => acc < 100) ['1', '2', '3', '4'] ['5'] 0 = ⟨123, 1⟩ := by decide
example : ofDigits (fun acc _ => acc < 100) ['1'] ['2', '3', '4', '5'] 7 = ⟨123, 5⟩ := by decide

end Decimal

end StatusPage
