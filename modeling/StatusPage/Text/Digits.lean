/-!
Digits of numbers.

`fixedDigits` writes the last digits of a number in a fixed width, which is how dates, clock times
and identifiers are laid out; `natural` and `integer` write a number with no digit to spare.
`ofDigits` reads digits back, letters in either case. The main statement is
`ofDigits_fixedDigits`: what is written in a fixed width reads back as the number it shows.
-/

namespace StatusPage.Text

/-- The last `width` digits of `n`, letters in lower case. -/
def fixedDigits (base : Nat) : Nat → Nat → List Char
  | 0, _ => []
  | width + 1, n => fixedDigits base width (n / base) ++ [Nat.digitChar (n % base)]

/-- The value of a digit below `base`, letters in either case. -/
def digitValue? (base : Nat) (c : Char) : Option Nat :=
  let value :=
    if '0' ≤ c ∧ c ≤ '9' then some (c.toNat - '0'.toNat)
    else if 'a' ≤ c ∧ c ≤ 'f' then some (c.toNat - 'a'.toNat + 10)
    else if 'A' ≤ c ∧ c ≤ 'F' then some (c.toNat - 'A'.toNat + 10)
    else none
  value.filter (· < base)

/-- The number that a run of digits shows on top of what was read before. -/
def ofDigitsFrom (base : Nat) : Nat → List Char → Option Nat
  | acc, [] => some acc
  | acc, c :: cs => (digitValue? base c).bind fun d => ofDigitsFrom base (acc * base + d) cs

/-- The number that a run of digits shows. -/
def ofDigits (base : Nat) (cs : List Char) : Option Nat :=
  ofDigitsFrom base 0 cs

/-- A natural number in decimal. -/
def natural (n : Nat) : String :=
  String.ofList (Nat.toDigits 10 n)

/-- An integer in decimal, with a sign when it is negative. -/
def integer (i : Int) : String :=
  match i with
  | .ofNat n => natural n
  | .negSucc n => "-" ++ natural (n + 1)

/-- A number in decimal with at least `width` digits. -/
def paddedDigits (width n : Nat) : List Char :=
  (Nat.toDigits 10 n).leftpad width '0'

/-- The bytes that a text takes in UTF-8. -/
def byteLength : List Char → Nat
  | [] => 0
  | c :: cs => c.utf8Size + byteLength cs

/-- What is taken out of a text takes no more bytes than the text. -/
theorem byteLength_le_of_sublist {part whole : List Char} (sub : part.Sublist whole) :
    byteLength part ≤ byteLength whole := by
  induction sub with
  | slnil => exact Nat.le_refl _
  | cons c _ ih => exact Nat.le_trans ih (Nat.le_add_left _ _)
  | cons_cons c _ ih => exact Nat.add_le_add_left ih _

/-! ## Reading what was written -/

theorem length_fixedDigits (base width n : Nat) : (fixedDigits base width n).length = width := by
  induction width generalizing n with
  | zero => rfl
  | succ width ih => simp [fixedDigits, ih]

theorem ofDigitsFrom_append (base acc : Nat) (front back : List Char) :
    ofDigitsFrom base acc (front ++ back) =
      (ofDigitsFrom base acc front).bind fun value => ofDigitsFrom base value back := by
  induction front generalizing acc with
  | nil => rfl
  | cons c front ih =>
    simp only [List.cons_append, ofDigitsFrom]
    cases digitValue? base c <;> simp [ih]

/-- A digit below sixteen reads back in every base it belongs to. -/
theorem digitValue?_digitChar {base d : Nat} (digit : d < base) (base_le : base ≤ 16) :
    digitValue? base (Nat.digitChar d) = some d := by
  have bound : d < 16 := Nat.lt_of_lt_of_le digit base_le
  have table : ∀ e : Fin 16, digitValue? 16 (Nat.digitChar e) = some e.val := by decide
  have entry := table ⟨d, bound⟩
  simp only [digitValue?, Option.filter_eq_some_iff] at entry ⊢
  exact ⟨entry.1, by simpa using digit⟩

/-- What is written in a fixed width reads back as the number modulo what the width can show. -/
theorem ofDigitsFrom_fixedDigits {base : Nat} (base_pos : 0 < base) (base_le : base ≤ 16)
    (width acc n : Nat) :
    ofDigitsFrom base acc (fixedDigits base width n) =
      some (acc * Nat.pow base width + n % Nat.pow base width) := by
  simp only [Nat.pow_eq]
  induction width generalizing n with
  | zero => simp [fixedDigits, ofDigitsFrom, Nat.mod_one]
  | succ width ih =>
    rw [fixedDigits, ofDigitsFrom_append, ih]
    simp only [Option.bind_some, ofDigitsFrom,
      digitValue?_digitChar (Nat.mod_lt n base_pos) base_le]
    congr 1
    rw [Nat.pow_succ', Nat.mod_mul, Nat.add_mul, Nat.mul_assoc, Nat.mul_comm base (base ^ width)]
    rw [Nat.mul_comm base (n / base % base ^ width)]
    omega

theorem ofDigits_fixedDigits {base : Nat} (base_pos : 0 < base) (base_le : base ≤ 16)
    (width n : Nat) :
    ofDigits base (fixedDigits base width n) = some (n % Nat.pow base width) := by
  simp [ofDigits, ofDigitsFrom_fixedDigits base_pos base_le]

end StatusPage.Text
