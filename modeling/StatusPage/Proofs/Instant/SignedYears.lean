import Mathlib
import StatusPage.Proofs.Instant.StoredReading

/-!
# Stored texts of years with a sign

The store compares the texts that it keeps for instants, and outside the years 0 to 9999 a text
begins with a sign and takes as many digits as the year has. `storedText_le_iff_writtenInOrder` says
for any two instants whether their texts come in the order of what is kept of them: the two years
alone decide, and they do so exactly if they are equal or written in order (`WrittenInOrder`). They
come in the order of the instants in whole microseconds if what is kept of the two is in this order
too, which leap seconds at the end of a minute never change (`storedText_le_iff_truncate`). A text
has its usual width in the years 0 to 9999 and in no other (`length_storedText_eq_iff`).
-/

namespace StatusPage.Instant

open Text

/-! ## The years of instants -/

theorem year_bounds (t : Instant) : -262143 ≤ t.year ∧ t.year ≤ 262142 := by
  have first := t.first_le
  have last := t.le_last
  simp only [firstSecond, lastSecond] at first last
  have not_earlier : ¬ t.date.Before ⟨-262143, 1, 1⟩ := by
    rw [← Date.dayNumber_lt_iff t.valid_date (by decide), dayNumber_date]
    omega
  have not_later : ¬ (⟨262142, 12, 31⟩ : Date).Before t.date := by
    rw [← Date.dayNumber_lt_iff (by decide) t.valid_date, dayNumber_date]
    omega
  simp only [Date.Before] at not_earlier not_later
  simp only [year]
  omega

theorem natAbs_year_lt (t : Instant) : t.year.natAbs < 1000000 := by
  have bounds := t.year_bounds
  omega

/-! ## Written years -/

/-- The digits that a year is written in: four, or as many as it has. -/
def yearWidth (year : Int) : Nat :=
  if year.natAbs < 10000 then 4 else if year.natAbs < 100000 then 5 else 6

theorem natAbs_lt_pow_yearWidth {year : Int} (small : year.natAbs < 1000000) :
    year.natAbs < 10 ^ yearWidth year := by
  unfold yearWidth
  split_ifs <;> omega

theorem yearWidth_le {y z : Int} (le : y.natAbs ≤ z.natAbs) : yearWidth y ≤ yearWidth z := by
  unfold yearWidth
  split_ifs <;> omega

/-- A year that has not four digits is written in its width after a sign. -/
theorem yearDigits_signed {year : Int} (small : year.natAbs < 1000000)
    (outside : ¬ (0 ≤ year ∧ year ≤ 9999)) :
    yearDigits year =
      (if year < 0 then '-' else '+') :: fixedDigits 10 (yearWidth year) year.natAbs := by
  have four : (Nat.toDigits 10 year.natAbs).length ≤ 4 ↔ year.natAbs < 10000 :=
    Nat.length_toDigits_le_iff (by decide) (by decide)
  have five : (Nat.toDigits 10 year.natAbs).length ≤ 5 ↔ year.natAbs < 100000 :=
    Nat.length_toDigits_le_iff (by decide) (by decide)
  have six : (Nat.toDigits 10 year.natAbs).length ≤ 6 ↔ year.natAbs < 1000000 :=
    Nat.length_toDigits_le_iff (by decide) (by decide)
  have width : max 4 (Nat.toDigits 10 year.natAbs).length = yearWidth year := by
    unfold yearWidth
    split_ifs <;> omega
  rw [yearDigits, if_neg outside, paddedDigits_eq_fixedDigits, width]

theorem yearDigits_negative {year : Int} (small : year.natAbs < 1000000) (negative : year < 0) :
    yearDigits year = '-' :: fixedDigits 10 (yearWidth year) year.natAbs := by
  rw [yearDigits_signed small (by omega), if_pos negative]

theorem yearDigits_large {year : Int} (small : year.natAbs < 1000000) (large : 9999 < year) :
    yearDigits year = '+' :: fixedDigits 10 (yearWidth year) year.natAbs := by
  rw [yearDigits_signed small (by omega), if_neg (by omega)]

/-! ## The order of written years -/

/-- The earlier of two years is written before the later one: the later one has four digits and no
sign, or both have the same sign and the digits of the two come in order as far as the shorter
number reaches. -/
def WrittenBefore (early late : Int) : Prop :=
  (0 ≤ late ∧ late ≤ 9999) ∨
    (9999 < early ∧ early.natAbs ≤ late.natAbs / 10 ^ (yearWidth late - yearWidth early)) ∨
    (late < 0 ∧ early.natAbs / 10 ^ (yearWidth early - yearWidth late) < late.natAbs)

instance (early late : Int) : Decidable (WrittenBefore early late) := by
  unfold WrittenBefore
  infer_instance

/-- Two years are equal or written in their order. -/
def WrittenInOrder (y z : Int) : Prop :=
  y = z ∨ WrittenBefore (min y z) (max y z)

instance (y z : Int) : Decidable (WrittenInOrder y z) := by
  unfold WrittenInOrder
  infer_instance

/-- One text comes before the other exactly if a condition holds, and after it otherwise. -/
def OrderedIf (a b : List Char) (condition : Prop) : Prop :=
  (a < b ↔ condition) ∧ (b < a ↔ ¬ condition)

theorem orderedIf_of_lt {a b : List Char} {condition : Prop} (first : a < b) (holds : condition) :
    OrderedIf a b condition :=
  ⟨iff_of_true first holds, iff_of_false (List.lt_asymm first) (not_not_intro holds)⟩

theorem orderedIf_of_gt {a b : List Char} {condition : Prop} (last : b < a) (fails : ¬ condition) :
    OrderedIf a b condition :=
  ⟨iff_of_false (List.lt_asymm last) fails, iff_of_true last fails⟩

theorem OrderedIf.swap {a b : List Char} {condition : Prop} (ordered : OrderedIf a b condition) :
    OrderedIf b a (¬ condition) :=
  ⟨ordered.2, ordered.1.trans not_not.symm⟩

/-- Years with one sign are written in the order of their numbers, unless the larger number is
below the smaller one as far as that reaches. -/
theorem orderedIf_of_natAbs_lt {y z : Int} (numbers : y.natAbs < z.natAbs)
    (small : z.natAbs < 1000000) (sign : Char) (rest rest' : List Char) :
    OrderedIf (sign :: fixedDigits 10 (yearWidth y) y.natAbs ++ '-' :: rest)
      (sign :: fixedDigits 10 (yearWidth z) z.natAbs ++ '-' :: rest')
      (y.natAbs ≤ z.natAbs / 10 ^ (yearWidth z - yearWidth y)) := by
  have width := Nat.add_sub_cancel' (yearWidth_le numbers.le)
  have shown_y := natAbs_lt_pow_yearWidth (numbers.trans small)
  have shown_z := natAbs_lt_pow_yearWidth small
  rw [← width] at shown_z
  rw [OrderedIf, List.cons_append, List.cons_append, cons_lt_cons_same, cons_lt_cons_same, ← width,
    Nat.add_sub_cancel_left, decimal_lt_wider_iff (by decide) numbers shown_y shown_z,
    wider_lt_decimal_iff (by decide) numbers shown_y shown_z, Nat.not_le]
  exact ⟨Iff.rfl, Iff.rfl⟩

section

variable {early late : Int} (small_early : early.natAbs < 1000000)
  (small_late : late.natAbs < 1000000) (less : early < late) (x y : List Char)

include small_early small_late less

/-- Of two years after 9999 the later one has the larger number. -/
theorem orderedIf_of_large (large : 9999 < early) :
    OrderedIf (yearDigits early ++ '-' :: x) (yearDigits late ++ '-' :: y)
      (WrittenBefore early late) := by
  have numbers : early.natAbs < late.natAbs := by omega
  have condition : WrittenBefore early late ↔
      early.natAbs ≤ late.natAbs / 10 ^ (yearWidth late - yearWidth early) := by
    unfold WrittenBefore
    omega
  rw [yearDigits_large small_early large, yearDigits_large small_late (by omega), condition]
  exact orderedIf_of_natAbs_lt numbers small_late '+' x y

/-- Of two years before 0 the earlier one has the larger number. -/
theorem orderedIf_of_negative (negative : late < 0) :
    OrderedIf (yearDigits early ++ '-' :: x) (yearDigits late ++ '-' :: y)
      (WrittenBefore early late) := by
  have numbers : late.natAbs < early.natAbs := by omega
  have condition : WrittenBefore early late ↔
      ¬ late.natAbs ≤ early.natAbs / 10 ^ (yearWidth early - yearWidth late) := by
    unfold WrittenBefore
    omega
  rw [yearDigits_negative small_early (by omega), yearDigits_negative small_late negative,
    condition]
  exact (orderedIf_of_natAbs_lt numbers small_early '-' y x).swap

/-- Two years are written in their order or the other way round. A plus comes before a minus and
both come before the digits. -/
theorem orderedIf_of_years_lt :
    OrderedIf (yearDigits early ++ '-' :: x) (yearDigits late ++ '-' :: y)
      (WrittenBefore early late) := by
  by_cases four : 0 ≤ late ∧ late ≤ 9999
  · have late_digits : yearDigits late = fixedDigits 10 4 late.toNat := if_pos four
    refine orderedIf_of_lt ?_ (Or.inl four)
    rcases lt_or_ge early 0 with negative | nonnegative
    · rw [yearDigits_negative small_early negative, late_digits]
      exact mark_lt_fixedDigits (by decide) (by decide) _ _ _
    · have early_digits : yearDigits early = fixedDigits 10 4 early.toNat :=
        if_pos ⟨nonnegative, by omega⟩
      rw [early_digits, late_digits, decimal_append_lt_iff (by omega) (by omega)]
      omega
  · rcases lt_or_ge late 0 with negative | nonnegative
    · exact orderedIf_of_negative small_early small_late less x y negative
    · have late_large : 9999 < late := by omega
      rcases lt_or_ge 9999 early with large | early_le
      · exact orderedIf_of_large small_early small_late less x y large
      · have fails : ¬ WrittenBefore early late := by
          unfold WrittenBefore
          omega
        refine orderedIf_of_gt ?_ fails
        rw [yearDigits_large small_late late_large]
        rcases lt_or_ge early 0 with negative | nonnegative
        · rw [yearDigits_negative small_early negative]
          exact List.cons_lt_cons_iff.2 (Or.inl (by decide))
        · have early_digits : yearDigits early = fixedDigits 10 4 early.toNat :=
            if_pos ⟨nonnegative, early_le⟩
          rw [early_digits]
          exact mark_lt_fixedDigits (by decide) (by decide) _ _ _

end

/-! ## The order of stored texts -/

theorem storedText_lt_iff_withinYear (a b : Instant) :
    a.storedText < b.storedText ↔
      yearDigits a.year ++ '-' :: a.withinYear < yearDigits b.year ++ '-' :: b.withinYear := by
  rw [String.lt_iff, toList_storedText_withinYear, toList_storedText_withinYear]

/-- Texts of one year are ordered by what is within the year. -/
theorem storedText_lt_iff_of_year_eq {a b : Instant} (same : a.year = b.year) :
    a.storedText < b.storedText ↔ a.kept < b.kept := by
  rw [storedText_lt_iff_withinYear, kept_lt_kept_iff_year, same, append_lt_append_iff rfl,
    cons_lt_cons_same]
  simp only [List.lt_irrefl, Int.lt_irrefl, true_and, false_or]

/-- Texts of two different years are ordered by the years. -/
theorem orderedIf_of_year_lt {a b : Instant} (less : a.year < b.year) :
    (a.storedText < b.storedText ↔ WrittenBefore a.year b.year) ∧
      (b.storedText < a.storedText ↔ ¬ WrittenBefore a.year b.year) := by
  rw [storedText_lt_iff_withinYear, storedText_lt_iff_withinYear]
  exact orderedIf_of_years_lt a.natAbs_year_lt b.natAbs_year_lt less _ _

/-- The texts of two instants come in the order of what is kept of the instants exactly if the years
are equal or written in order. -/
theorem storedText_le_iff_writtenInOrder (a b : Instant) :
    (a.storedText ≤ b.storedText ↔ a.kept ≤ b.kept) ↔ WrittenInOrder a.year b.year := by
  have texts : a.storedText ≤ b.storedText ↔ ¬ b.storedText < a.storedText := Iff.rfl
  have instants : a.kept ≤ b.kept ↔ ¬ b.kept < a.kept := Iff.rfl
  rw [texts, instants, not_iff_not]
  rcases Int.lt_trichotomy a.year b.year with before | same | after
  · have later : ¬ b.kept < a.kept := by
      rw [kept_lt_kept_iff_year]
      omega
    rw [(orderedIf_of_year_lt before).2, iff_false_right later, not_not, WrittenInOrder,
      min_eq_left before.le, max_eq_right before.le, or_iff_right before.ne]
  · exact iff_of_true (storedText_lt_iff_of_year_eq same.symm) (Or.inl same)
  · have earlier : b.kept < a.kept := (kept_lt_kept_iff_year b a).2 (Or.inl after)
    rw [(orderedIf_of_year_lt after).1, iff_true_right earlier, WrittenInOrder,
      min_eq_right after.le, max_eq_left after.le, or_iff_right after.ne']

theorem FourDigitYear.writtenInOrder {a b : Instant} (year_a : a.FourDigitYear)
    (year_b : b.FourDigitYear) : WrittenInOrder a.year b.year := by
  have order := storedText_le_iff year_a year_b
  exact (storedText_le_iff_writtenInOrder a b).1 order

/-! ## The order of instants in whole microseconds -/

/-- What is kept of two instants is in the order that they have in whole microseconds. -/
def KeptInOrder (a b : Instant) : Prop :=
  a.kept ≤ b.kept ↔ a.truncate ≤ b.truncate

theorem keptInOrder_of_regular {a b : Instant} (regular_a : a.Regular) (regular_b : b.Regular) :
    KeptInOrder a b := by
  rw [KeptInOrder, kept_of_regular regular_a, kept_of_regular regular_b]

theorem second_lt_of_year_lt {a b : Instant} (less : a.year < b.year) : a.second < b.second := by
  have days := (date_before_iff a b).1 (Or.inl less)
  omega

/-- No instant is kept in another year. -/
theorem keptInOrder_of_year_ne {a b : Instant} (differ : a.year ≠ b.year) : KeptInOrder a b := by
  rw [KeptInOrder]
  rcases lt_or_gt_of_ne differ with before | after
  · have seconds := second_lt_of_year_lt before
    have kept : a.kept ≤ b.kept := by
      intro less
      rw [kept_lt_kept_iff_year] at less
      omega
    exact iff_of_true kept (le_iff.2 (Or.inl seconds))
  · have seconds := second_lt_of_year_lt after
    have kept : ¬ a.kept ≤ b.kept :=
      not_not_intro ((kept_lt_kept_iff_year b a).2 (Or.inl after))
    exact iff_of_false kept (not_not_intro (lt_iff.2 (Or.inl seconds)))

/-- The texts of two instants come in the order of the instants in whole microseconds exactly if the
years are equal or written in order and what is kept of the instants is in this order. -/
theorem storedText_le_iff_truncate (a b : Instant) :
    (a.storedText ≤ b.storedText ↔ a.truncate ≤ b.truncate) ↔
      WrittenInOrder a.year b.year ∧ KeptInOrder a b := by
  have texts := storedText_le_iff_writtenInOrder a b
  by_cases same : a.year = b.year
  · have written : WrittenInOrder a.year b.year := Or.inl same
    rw [texts.2 written, and_iff_right written, KeptInOrder]
  · have kept := keptInOrder_of_year_ne same
    have order : a.kept ≤ b.kept ↔ a.truncate ≤ b.truncate := kept
    rw [and_iff_left kept, ← order, texts]

/-! ## The width of stored texts -/

/-- The stored text has its usual width in years of four digits only. -/
theorem length_storedText_eq_iff (t : Instant) : t.storedText.length = 27 ↔ t.FourDigitYear := by
  rw [← String.length_toList, toList_storedText_withinYear, List.length_append, List.length_cons,
    length_withinYear]
  by_cases year : t.FourDigitYear
  · rw [yearDigits_fourDigitYear year, length_fixedDigits]
    exact iff_of_true rfl year
  · obtain ⟨sign, digits, -, least, written⟩ := exists_sign year
    rw [written, List.length_cons]
    exact iff_of_false (by omega) year

end StatusPage.Instant
