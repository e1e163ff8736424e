import StatusPage.Text.Digits
import StatusPage.Text.Utf8

/-!
Percent-encoded texts.

A text in a request target stands for bytes. A percent sign with two hexadecimal digits after it is
the byte that they show; every other character, a percent sign without such digits included, is its
own bytes. In a form, a plus sign stands for a space.
-/

namespace StatusPage.Text

/-- The bytes that a percent-encoded text stands for. -/
def percentDecode : List Char → List UInt8
  | [] => []
  | '%' :: high :: low :: rest =>
    match ofDigits 16 [high, low] with
    | some value => UInt8.ofNat value :: percentDecode rest
    | none => String.utf8EncodeChar '%' ++ percentDecode (high :: low :: rest)
  | c :: rest => String.utf8EncodeChar c ++ percentDecode rest

/-- A text of a form: plus signs are spaces, and what is not UTF-8 shows as the replacement
character. -/
def formDecode (cs : List Char) : List Char :=
  utf8Lenient (percentDecode (cs.map fun c => if c = '+' then ' ' else c))

/-- A text without percent signs stands for its own bytes. -/
theorem percentDecode_eq_utf8Encode {cs : List Char} (plain : '%' ∉ cs) :
    percentDecode cs = utf8Encode cs := by
  induction cs with
  | nil => rfl
  | cons c cs ih =>
    have other : c ≠ '%' := fun eq => plain (by simp [eq])
    have rest : '%' ∉ cs := fun member => plain (List.mem_cons_of_mem _ member)
    rw [percentDecode]
    · simp [ih rest, utf8Encode]
    · rintro high low rest eq
      exact absurd eq other

end StatusPage.Text
