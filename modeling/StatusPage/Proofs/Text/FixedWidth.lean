import Mathlib
import StatusPage.Text.Digits

/-!
# The order of numbers in a fixed width

Identifiers and stored instants are compared as texts. This module makes such comparisons
comparisons of numbers: `append_lt_append_iff` reads two texts field by field, and
`fixedDigits_lt_iff` says that a field of digits is ordered as the number that it shows. Where two
fields differ in width, `decimal_lt_wider_iff` says what the order of the numbers is worth.
-/

namespace StatusPage.Text

/-! ## Fields of one width -/

/-- Two texts that begin with fields of one width are ordered by the fields, and by what follows
where the fields are equal. -/
theorem append_lt_append_iff {a b x y : List Char} (width : a.length = b.length) :
    a ++ x < b ++ y ↔ a < b ∨ (a = b ∧ x < y) := by
  induction a generalizing b with
  | nil =>
    obtain rfl : b = [] := List.length_eq_zero_iff.1 width.symm
    simp
  | cons c a ih =>
    cases b with
    | nil => simp at width
    | cons d b =>
      have rest := ih (b := b) (by simpa using width)
      simp only [List.cons_append, List.cons_lt_cons_iff, rest, List.cons.injEq]
      grind

/-- A mark that two texts have in one place does not order them. -/
theorem cons_lt_cons_same {c : Char} {x y : List Char} : c :: x < c :: y ↔ x < y := by
  simp

/-! ## Digits -/

theorem digitChar_lt_digitChar_iff {d e : Nat} (hd : d < 16) (he : e < 16) :
    Nat.digitChar d < Nat.digitChar e ↔ d < e := by
  have table : ∀ d e : Fin 16, Nat.digitChar d.val < Nat.digitChar e.val ↔ d.val < e.val := by
    decide
  exact table ⟨d, hd⟩ ⟨e, he⟩

/-! ## Numbers -/

/-- Numbers that a width can show are equal when their digits are. -/
theorem fixedDigits_injective {base width m n : Nat} (base_pos : 0 < base) (base_le : base ≤ 16)
    (hm : m < base ^ width) (hn : n < base ^ width)
    (same : fixedDigits base width m = fixedDigits base width n) : m = n := by
  have left := ofDigits_fixedDigits base_pos base_le width m
  have right := ofDigits_fixedDigits base_pos base_le width n
  simp only [Nat.pow_eq, Nat.mod_eq_of_lt hm, Nat.mod_eq_of_lt hn] at left right
  rw [same] at left
  exact Option.some.inj (left.symm.trans right)

theorem fixedDigits_eq_iff {base width m n : Nat} (base_pos : 0 < base) (base_le : base ≤ 16)
    (hm : m < base ^ width) (hn : n < base ^ width) :
    fixedDigits base width m = fixedDigits base width n ↔ m = n :=
  ⟨fixedDigits_injective base_pos base_le hm hn, fun eq => by rw [eq]⟩

/-- Numbers that a width can show are ordered as their digits are. -/
theorem fixedDigits_lt_iff {base width m n : Nat} (base_pos : 0 < base) (base_le : base ≤ 16)
    (hm : m < base ^ width) (hn : n < base ^ width) :
    fixedDigits base width m < fixedDigits base width n ↔ m < n := by
  induction width generalizing m n with
  | zero =>
    simp only [Nat.pow_zero, Nat.lt_one_iff] at hm hn
    simp [fixedDigits, hm, hn]
  | succ width ih =>
    have high_m : m / base < base ^ width := Nat.div_lt_of_lt_mul (by rwa [Nat.pow_succ'] at hm)
    have high_n : n / base < base ^ width := Nat.div_lt_of_lt_mul (by rwa [Nat.pow_succ'] at hn)
    have low_m : m % base < 16 := Nat.lt_of_lt_of_le (Nat.mod_lt m base_pos) base_le
    have low_n : n % base < 16 := Nat.lt_of_lt_of_le (Nat.mod_lt n base_pos) base_le
    rw [fixedDigits, fixedDigits,
      append_lt_append_iff (by simp only [length_fixedDigits]), ih high_m high_n,
      fixedDigits_eq_iff base_pos base_le high_m high_n]
    simp only [List.cons_lt_cons_iff, List.not_lt_nil, and_false, or_false,
      digitChar_lt_digitChar_iff low_m low_n]
    have split_m := Nat.div_add_mod m base
    have split_n := Nat.div_add_mod n base
    constructor
    · rintro (high | ⟨high, low⟩)
      · exact Nat.lt_of_div_lt_div high
      · rw [← split_m, ← split_n, high]; omega
    · intro less
      rcases Nat.lt_or_ge (m / base) (n / base) with high | high
      · exact Or.inl high
      · have equal : m / base = n / base :=
          Nat.le_antisymm (Nat.div_le_div_right (Nat.le_of_lt less)) high
        rw [equal] at split_m
        exact Or.inr ⟨equal, by omega⟩

/-- A decimal number in a fixed width before a mark is read before what follows the mark. -/
theorem decimal_append_lt_iff {width m n : Nat} {mark : Char} {x y : List Char}
    (hm : m < 10 ^ width) (hn : n < 10 ^ width) :
    fixedDigits 10 width m ++ mark :: x < fixedDigits 10 width n ++ mark :: y ↔
      m < n ∨ (m = n ∧ x < y) := by
  have base_pos : 0 < 10 := by omega
  have base_le : 10 ≤ 16 := by omega
  rw [append_lt_append_iff (by simp only [length_fixedDigits]), cons_lt_cons_same,
    fixedDigits_lt_iff base_pos base_le hm hn, fixedDigits_eq_iff base_pos base_le hm hn]

/-- A number in a fixed width is written in digits of its base. -/
theorem exists_digit_of_fixedDigits {base width n : Nat} (base_pos : 0 < base) {c : Char}
    (member : c ∈ fixedDigits base width n) : ∃ d < base, c = Nat.digitChar d := by
  induction width generalizing n with
  | zero => simp [fixedDigits] at member
  | succ width ih =>
    rw [fixedDigits, List.mem_append, List.mem_singleton] at member
    rcases member with member | rfl
    · exact ih member
    · exact ⟨n % base, Nat.mod_lt n base_pos, rfl⟩

/-- Digits of a width are those of the high part before those of the low part. -/
theorem fixedDigits_add (base high low n : Nat) :
    fixedDigits base (high + low) n =
      fixedDigits base high (n / base ^ low) ++ fixedDigits base low n := by
  induction low generalizing n with
  | zero => simp [fixedDigits]
  | succ low ih =>
    rw [← Nat.add_assoc, fixedDigits, ih, fixedDigits, Nat.div_div_eq_div_mul, Nat.pow_succ',
      List.append_assoc]

/-! ## Numbers in different widths -/

theorem fixedDigits_mul_pow (n k : Nat) : fixedDigits 10 k (n * 10 ^ k) = List.replicate k '0' := by
  induction k with
  | zero => rfl
  | succ k ih =>
    have front : n * 10 ^ (k + 1) / 10 = n * 10 ^ k := by
      rw [Nat.pow_succ, ← Nat.mul_assoc, Nat.mul_div_cancel _ (by decide)]
    have last : n * 10 ^ (k + 1) % 10 = 0 := by
      rw [Nat.pow_succ, ← Nat.mul_assoc, Nat.mul_mod_left]
    rw [fixedDigits, front, last, ih, List.replicate_succ']
    rfl

/-- A number without a digit to spare is written in the width of its digits. -/
theorem toDigits_eq_fixedDigits (n : Nat) :
    Nat.toDigits 10 n = fixedDigits 10 (Nat.toDigits 10 n).length n := by
  induction n using Nat.strongRecOn with
  | ind n ih =>
    by_cases single : n < 10
    · rw [Nat.toDigits_of_lt_base single]
      simp [fixedDigits, Nat.mod_eq_of_lt single]
    · have front := ih (n / 10) (by omega)
      rw [Nat.toDigits_of_base_le (by decide) (Nat.le_of_not_lt single), List.length_append,
        List.length_singleton, fixedDigits, ← front]

/-- A number with at least so many digits is written in that width, or in the width of its
digits. -/
theorem paddedDigits_eq_fixedDigits (least n : Nat) :
    paddedDigits least n = fixedDigits 10 (max least (Nat.toDigits 10 n).length) n := by
  have shown : n < 10 ^ (Nat.toDigits 10 n).length :=
    (Nat.length_toDigits_le_iff (by decide) Nat.length_toDigits_pos).1 (Nat.le_refl _)
  have width : max least (Nat.toDigits 10 n).length =
      (least - (Nat.toDigits 10 n).length) + (Nat.toDigits 10 n).length := by omega
  have zeros := fixedDigits_mul_pow 0 (least - (Nat.toDigits 10 n).length)
  rw [Nat.zero_mul] at zeros
  rw [width, fixedDigits_add, Nat.div_eq_of_lt shown, zeros, ← toDigits_eq_fixedDigits]
  rfl

theorem le_length_paddedDigits (least n : Nat) : least ≤ (paddedDigits least n).length := by
  rw [paddedDigits_eq_fixedDigits, length_fixedDigits]
  exact Nat.le_max_left _ _

/-- A mark below the digits comes before any number. -/
theorem mark_lt_fixedDigits {mark : Char} (below : mark < '0') {width : Nat} (digits : 0 < width)
    (n : Nat) (x y : List Char) : mark :: x < fixedDigits 10 width n ++ y := by
  have length := length_fixedDigits 10 width n
  obtain ⟨c, cs, written⟩ := List.exists_cons_of_length_pos (length.symm ▸ digits)
  have member : c ∈ fixedDigits 10 width n := by
    rw [written]
    exact List.mem_cons_self
  obtain ⟨d, bound, rfl⟩ := exists_digit_of_fixedDigits (by decide) member
  have table : ∀ d : Fin 10, '0' ≤ Nat.digitChar d.val := by decide
  rw [written, List.cons_append, List.cons_lt_cons_iff]
  exact Or.inl (lt_of_lt_of_le below (table ⟨d, bound⟩))

section

variable {width more m n : Nat} {mark : Char}

theorem div_pow_lt_pow (hn : n < 10 ^ (width + more)) : n / 10 ^ more < 10 ^ width :=
  Nat.div_lt_of_lt_mul (by rwa [← Nat.pow_add, Nat.add_comm])

/-- Before a mark below the digits the smaller of two numbers comes first, unless the larger one is
below it as far as the smaller one reaches. -/
theorem decimal_lt_wider_iff (below : mark < '0') (less : m < n) (hm : m < 10 ^ width)
    (hn : n < 10 ^ (width + more)) (x y : List Char) :
    fixedDigits 10 width m ++ mark :: x < fixedDigits 10 (width + more) n ++ mark :: y ↔
      m ≤ n / 10 ^ more := by
  have front := div_pow_lt_pow hn
  rw [fixedDigits_add, List.append_assoc, append_lt_append_iff (by simp only [length_fixedDigits]),
    fixedDigits_lt_iff (by decide) (by decide) hm front,
    fixedDigits_eq_iff (by decide) (by decide) hm front]
  rcases Nat.eq_zero_or_pos more with rfl | wider
  · rw [Nat.pow_zero, Nat.div_one]
    omega
  · have first := mark_lt_fixedDigits below wider n x (mark :: y)
    rw [and_iff_left first]
    omega

theorem wider_lt_decimal_iff (below : mark < '0') (less : m < n) (hm : m < 10 ^ width)
    (hn : n < 10 ^ (width + more)) (x y : List Char) :
    fixedDigits 10 (width + more) n ++ mark :: y < fixedDigits 10 width m ++ mark :: x ↔
      n / 10 ^ more < m := by
  have front := div_pow_lt_pow hn
  rw [fixedDigits_add, List.append_assoc, append_lt_append_iff (by simp only [length_fixedDigits]),
    fixedDigits_lt_iff (by decide) (by decide) front hm,
    fixedDigits_eq_iff (by decide) (by decide) front hm]
  rcases Nat.eq_zero_or_pos more with rfl | wider
  · rw [Nat.pow_zero, Nat.div_one]
    omega
  · have first := List.lt_asymm (mark_lt_fixedDigits below wider n x (mark :: y))
    simp only [first, and_false, or_false]

end

end StatusPage.Text
