import StatusPage.Binary
import StatusPage.Decimal
import StatusPage.Text.Blank

/-!
Texts that show numbers.

A numeral is a sign, digits with a point among them, and a power of ten, with white space around.
One without point and power stands for an integer. `Numeral.magnitude` gives any numeral a number
of 64 bits: it keeps nineteen digits or twenty, works the power of ten in by factors, each product
rounded in the extended format, and rounds once more at the end.
-/

namespace StatusPage.Store

open Text Binary

/-- A number as it is written. -/
structure Numeral where
  negative : Bool
  /-- The digits before the point. -/
  whole : List Char
  /-- The digits after the point, if there is a point. -/
  places : Option (List Char)
  /-- The power of ten, if one is written. -/
  power : Option Int
  deriving DecidableEq

namespace Numeral

/-! ## Reading -/

/-- Decimal digits at the front of a text, and the rest. -/
def digitsOf (cs : List Char) : List Char × List Char :=
  cs.span fun c => '0' ≤ c && c ≤ '9'

/-- The sign at the front of a text, and the rest. -/
def signOf : List Char → Bool × List Char
  | '-' :: rest => (true, rest)
  | '+' :: rest => (false, rest)
  | rest => (false, rest)

/-- The largest size of a power at which more digits of it are taken in. -/
def powerBound : Nat := 10000

/-- The size of a power of ten. One with too many digits to matter counts as the bound. -/
def powerSize (digits : List Char) : Nat :=
  digits.foldl (fun size c =>
    if size < powerBound then size * 10 + (digitValue? 10 c).getD 0 else powerBound) 0

/-- A power of ten that makes up the whole text, or no power at all. -/
def power? : List Char → Option (Option Int)
  | [] => some none
  | mark :: rest =>
    if mark = 'e' ∨ mark = 'E' then
      let (down, rest) := signOf rest
      match digitsOf rest with
      | ([], _) => none
      | (digits, []) =>
        some (some (if down then -(powerSize digits : Int) else powerSize digits))
      | _ => none
    else none

/-- The numeral that a text without white space around it shows. -/
def ofList? (cs : List Char) : Option Numeral :=
  let (negative, rest) := signOf cs
  let (whole, rest) := digitsOf rest
  let (places, rest) := match rest with
    | '.' :: rest => (some (digitsOf rest).1, (digitsOf rest).2)
    | rest => (none, rest)
  if whole = [] ∧ places.getD [] = [] then none
  else (power? rest).map fun power => ⟨negative, whole, places, power⟩

/-- The numeral that a text shows, white space around it aside. -/
def parse? (s : String) : Option Numeral :=
  let isGap (c : Char) : Bool := isBlank c && c.toNat < 0x80
  ofList? ((s.toList.dropWhile isGap).reverse.dropWhile isGap).reverse

/-! ## The number -/

/-- The integer that a numeral without point and power stands for. -/
def integer? (n : Numeral) : Option Int :=
  if n.places.isSome || n.power.isSome then none
  else
    let size : Nat := (ofDigits 10 n.whole).getD 0
    some (if n.negative then -(size : Int) else size)

/-- The largest significand of 64 bits. -/
def widest : Nat := (1 <<< 64) - 1

/-- The digits that are kept: one more is taken while the significand is below a tenth of the
widest, with nine to spare. -/
def decimal (n : Numeral) : Decimal :=
  Decimal.ofDigits (fun acc _ => acc < (widest - 9) / 10) n.whole (n.places.getD [])
    (n.power.getD 0)

/-- Takes powers of ten into a significand as long as they fit, and gives the power left over. -/
def raise : Nat → Nat → Nat × Nat
  | significand, 0 => (significand, 0)
  | significand, power + 1 =>
    if significand < widest / 10 then raise (significand * 10) power
    else (significand, power + 1)

/-- Takes powers of ten out of a significand as long as they divide it, and gives the power left
over. -/
def lower : Nat → Nat → Nat × Nat
  | significand, 0 => (significand, 0)
  | significand, power + 1 =>
    if significand % 10 = 0 then lower (significand / 10) power else (significand, power + 1)

/-- The product of a number and a power of a factor, rounded after each multiplication. -/
def timesPower (factor : Binary) (power : Nat) (x : Binary) : Binary :=
  Nat.repeat (Format.extended.mul factor) power x

/-- The product of a number and the given power of a base, worked in by its hundreds, its tens and
its ones. `base k` is the base to the power of `k`. -/
def scale (base : Nat → Binary) (power : Nat) (x : Binary) : Binary :=
  timesPower (base 1) (power % 10)
    (timesPower (base 10) (power % 100 / 10) (timesPower (base 100) (power / 100) x))

/-- A decimal number in the extended format. -/
def extendedOf (d : Decimal) : Binary :=
  if 0 ≤ d.exponent then
    let (significand, power) := raise d.significand d.exponent.toNat
    scale (fun k => Format.extended.ofQuotient (Nat.pow 10 k) 1) power ⟨significand, 0⟩
  else
    let (significand, power) := lower d.significand (-d.exponent).toNat
    scale (fun k => Format.extended.ofQuotient 1 (Nat.pow 10 k)) power ⟨significand, 0⟩

/-- What numbers above the largest one count as. -/
def infinity : Nat := 1 <<< 1024

/-- The number of 64 bits that a numeral shows, without its sign. -/
def magnitude (n : Numeral) : Rat :=
  if n.decimal.significand = 0 then 0
  else
    let x := extendedOf n.decimal
    if x.overflows then infinity else (Format.binary64.round x).toRat

/-- The number of 64 bits that a numeral shows. -/
def value (n : Numeral) : Rat :=
  if n.negative then -n.magnitude else n.magnitude

end Numeral

end StatusPage.Store
