/-!
Binary floating point.

A format bounds the binary digits of a significand and the exponent from below. `Format.ofQuotient`
gives the number of a format that is nearest to a quotient, of two equally near the one with the
even significand, and `Format.mul` rounds a product likewise. Formats have no largest number here:
`Binary.overflows` tells which numbers lie above the largest of 64 bits. The main statements are
`le_nearestQuotient` and `nearestQuotient_le`: rounding moves a quotient by half a unit at most.
-/

namespace StatusPage

/-- The number `significand · 2 ^ exponent`. -/
structure Binary where
  significand : Nat
  exponent : Int
  deriving DecidableEq, Repr

namespace Binary

/-- The quotient rounded to an integer, a half to the even neighbour. -/
def nearestQuotient (num den : Nat) : Nat :=
  if den < 2 * (num % den) ∨ (2 * (num % den) = den ∧ num / den % 2 = 1) then num / den + 1
  else num / den

example : [3, 5, 6, 7].map (nearestQuotient · 2) = [2, 2, 3, 4] := by decide

/-- Rounding takes no more than half a unit away. -/
theorem le_nearestQuotient {den : Nat} (den_pos : 0 < den) (num : Nat) :
    2 * num ≤ 2 * (den * nearestQuotient num den) + den := by
  have split := Nat.div_add_mod num den
  have remainder := Nat.mod_lt num den_pos
  unfold nearestQuotient
  split
  · rw [Nat.mul_add]; omega
  · omega

/-- Rounding adds no more than half a unit. -/
theorem nearestQuotient_le (num den : Nat) :
    2 * (den * nearestQuotient num den) ≤ 2 * num + den := by
  have split := Nat.div_add_mod num den
  unfold nearestQuotient
  split
  · rw [Nat.mul_add]; omega
  · omega

/-- The numbers that a form of writing them in bits can hold. -/
structure Format where
  /-- The binary digits that a significand can have. -/
  width : Nat
  /-- The smallest exponent. -/
  least : Int

namespace Format

/-- The format of 64 bits. -/
def binary64 : Format := ⟨53, -1074⟩

/-- The format of 80 bits, in which products are worked out. -/
def extended : Format := ⟨64, -16445⟩

/-- The number nearest to a quotient. -/
def ofQuotient (f : Format) (num den : Nat) : Binary :=
  let scaled (exponent : Int) : Nat × Nat :=
    (num <<< (-exponent).toNat, den <<< exponent.toNat)
  let guess : Int := (num.log2 : Int) - den.log2 - f.width + 1
  let full := (scaled guess).1 / (scaled guess).2
  let exponent := max f.least (if full < 1 <<< (f.width - 1) then guess - 1 else guess)
  ⟨nearestQuotient (scaled exponent).1 (scaled exponent).2, exponent⟩

/-- The number nearest to a number of any format. -/
def round (f : Format) (x : Binary) : Binary :=
  let rounded := ofQuotient ⟨f.width, f.least - x.exponent⟩ x.significand 1
  ⟨rounded.significand, rounded.exponent + x.exponent⟩

/-- The number nearest to a product. -/
def mul (f : Format) (x y : Binary) : Binary :=
  f.round ⟨x.significand * y.significand, x.exponent + y.exponent⟩

end Format

/-- The largest number of the format of 64 bits. -/
def largest : Nat :=
  (1 <<< 1024) - (1 <<< 971)

/-- Whether a number lies above the largest of the format of 64 bits. -/
def overflows (x : Binary) : Bool :=
  largest <<< (-x.exponent).toNat < x.significand <<< x.exponent.toNat

/-- The value of a number. -/
def toRat (x : Binary) : Rat :=
  mkRat (x.significand <<< x.exponent.toNat : Nat) (1 <<< (-x.exponent).toNat)

example : (Format.binary64.ofQuotient 1 10).toRat = 0x1999999999999A / 0x100000000000000 := by
  decide +kernel
example : (Format.binary64.ofQuotient 1 (Nat.pow 10 324)).toRat = 0 := by decide +kernel
example : (Format.binary64.ofQuotient (Nat.pow 10 23) 1).toRat = 99999999999999991611392 := by
  decide +kernel

end Binary

end StatusPage
