import StatusPage.Store.Numeral

/-!
Cells of integer columns.

A column of integers takes any value: a text that shows a number becomes that number, and a text
that shows none stays a text. Numbers are ordered by size and come before texts.
-/

namespace StatusPage.Store

/-- What a cell of an integer column can hold. -/
inductive Cell where
  | int (value : Int)
  /-- A number of floating point that is no integer of 64 bits. -/
  | real (value : Rat)
  | text (value : String)
  deriving DecidableEq

namespace Cell

/-- The name of what a cell holds. -/
def kindName : Cell → String
  | .int _ => "Integer"
  | .real _ => "Real"
  | .text _ => "Text"

/-- Numbers are ordered by size and come before texts, which are ordered as texts. -/
def le : Cell → Cell → Bool
  | .int a, .int b => decide (a ≤ b)
  | .int a, .real b => decide ((a : Rat) ≤ b)
  | .real a, .int b => decide (a ≤ (b : Rat))
  | .real a, .real b => decide (a ≤ b)
  | .text a, .text b => decide (a ≤ b)
  | .text _, _ => false
  | _, .text _ => true

/-- Whether a cell lies between two integers. A text lies above every integer. -/
def between (low high : Int) (c : Cell) : Bool :=
  (Cell.int low).le c && c.le (.int high)

/-- Whether a cell is at least an integer. -/
def atLeast (low : Int) (c : Cell) : Bool :=
  (Cell.int low).le c

/-- The largest cell of a list. -/
def largest? : List Cell → Option Cell
  | [] => none
  | c :: cs =>
    match largest? cs with
    | none => some c
    | some d => some (if c.le d then d else c)

/-- Whether an integer takes 64 bits at most. -/
def fits (value : Int) : Bool :=
  -9223372036854775808 ≤ value && value ≤ 9223372036854775807

/-- What a column of integers holds for a text: an integer, if the text shows one exactly or if the
number that it shows is one after rounding. -/
def ofText (s : String) : Cell :=
  match Numeral.parse? s with
  | none => .text s
  | some numeral =>
    match numeral.integer?.filter fits with
    | some value => .int value
    | none =>
      let value := numeral.value
      if value.den = 1 && -9223372036854775808 < value.num && fits value.num then .int value.num
      else .real value

end Cell

end StatusPage.Store
