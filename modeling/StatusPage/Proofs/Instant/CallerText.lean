import Mathlib
import StatusPage.Proofs.Instant.SignedYears

/-!
# Reading answered instants

An answer shows an instant with no more digits of a fraction than needed, and a caller can send the
text back. It is read as the instant that was shown (`parse?_text`), in every year and inside leap
seconds too, save that one inside a minute is read as the second that follows: what callers may
leave out of a text does not make another text of one that leaves nothing out.
-/

namespace StatusPage.Instant

open Text

/-! ## White space that is not there -/

theorem isBlank_of_isDigit {c : Char} (digit : isDigit c = true) : isBlank c = false := by
  simp only [isDigit, Bool.and_eq_true, decide_eq_true_eq] at digit
  have low : 48 ≤ c.toNat := digit.1
  have high : c.toNat ≤ 57 := digit.2
  simp only [isBlank, Bool.or_eq_false_iff, Bool.and_eq_false_imp, decide_eq_true_eq,
    decide_eq_false_iff_not, beq_eq_false_iff_ne]
  omega

/-- A number in some width begins with a digit. -/
theorem exists_fixedDigits_eq_cons {width : Nat} (some_width : 0 < width) (n : Nat) :
    ∃ c cs, fixedDigits 10 width n = c :: cs ∧ isDigit c = true := by
  have length := length_fixedDigits 10 width n
  obtain ⟨c, cs, digits⟩ := List.exists_cons_of_length_pos (length.symm ▸ some_width)
  have member : c ∈ fixedDigits 10 width n := by
    rw [digits]
    exact List.mem_cons_self
  obtain ⟨d, bound, rfl⟩ := exists_digit_of_fixedDigits (by decide) member
  exact ⟨_, cs, digits, isDigit_digitChar bound⟩

theorem trimStart_fixedDigits {width : Nat} (some_width : 0 < width) (n : Nat)
    (rest : List Char) :
    trimStart (fixedDigits 10 width n ++ rest) = fixedDigits 10 width n ++ rest := by
  obtain ⟨c, cs, digits, digit⟩ := exists_fixedDigits_eq_cons some_width n
  rw [digits, List.cons_append, trimStart_of_visible (isBlank_of_isDigit digit)]

/-! ## Parts of the text -/

/-- A year of four digits is read without a sign. -/
theorem yearPart_fixedDigits {n : Nat} (bound : n < 10 ^ 4) (rest : List Char) :
    yearPart (fixedDigits 10 4 n ++ rest) = .ok ((n : Int), rest) := by
  have read := number_fixedDigits (show 1 ≤ 4 by decide) bound rest
  obtain ⟨c, cs, digits, digit⟩ := exists_fixedDigits_eq_cons (show 0 < 4 by decide) n
  rw [digits, List.cons_append] at read ⊢
  unfold yearPart
  split
  · next minus =>
    cases minus
    cases digit
  · next plus =>
    cases plus
    cases digit
  · rw [read]
    rfl

/-- A number after a sign ends where its digits end. -/
theorem number_length_fixedDigits {width n : Nat} (some_width : 0 < width) (bound : n < 10 ^ width)
    {rest : List Char} (stop : rest.takeWhile isDigit = []) :
    number 1 (fixedDigits 10 width n ++ rest).length (fixedDigits 10 width n ++ rest) =
      .ok (n, rest) := by
  have length := length_fixedDigits 10 width n
  have bytes : ¬ byteLength (fixedDigits 10 width n ++ rest) < 1 := by
    have := length_le_byteLength (fixedDigits 10 width n ++ rest)
    rw [List.length_append] at this
    omega
  simp only [number, if_neg bytes, List.take_length, takeWhile_fixedDigits width n rest stop,
    length, Nat.not_lt.2 some_width, if_false, digitsValue_fixedDigits bound,
    List.drop_left' length]

theorem yearWidth_pos (year : Int) : 0 < yearWidth year := by
  unfold yearWidth
  split_ifs <;> decide

/-- A year is read with the sign and the digits that it is written with. -/
theorem yearPart_yearDigits (t : Instant) (rest : List Char) :
    yearPart (yearDigits t.year ++ '-' :: rest) = .ok (t.year, '-' :: rest) := by
  have small := t.natAbs_year_lt
  have number := number_length_fixedDigits (yearWidth_pos t.year) (natAbs_lt_pow_yearWidth small)
    (show ('-' :: rest).takeWhile isDigit = [] from rfl)
  rcases lt_trichotomy t.year 0 with negative | zero | positive
  · rw [yearDigits_negative small negative, List.cons_append, yearPart, number]
    exact congrArg (fun y => Except.ok (y, '-' :: rest)) (by omega)
  · rw [zero]
    exact yearPart_fixedDigits (by decide) _
  · by_cases large : 9999 < t.year
    · rw [yearDigits_large small large, List.cons_append, yearPart, number]
      exact congrArg (fun y => Except.ok (y, '-' :: rest)) (by omega)
    · rw [yearDigits, if_pos ⟨positive.le, by omega⟩, yearPart_fixedDigits (by omega),
        Int.toNat_of_nonneg positive.le]

theorem trimStart_yearDigits (year : Int) (rest : List Char) :
    trimStart (yearDigits year ++ rest) = yearDigits year ++ rest := by
  by_cases plain : 0 ≤ year ∧ year ≤ 9999
  · rw [yearDigits, if_pos plain, trimStart_fixedDigits (by decide)]
  · rw [yearDigits, if_neg plain, List.cons_append]
    refine trimStart_of_visible ?_ _
    split <;> decide

/-- A number of two digits within its bounds is read. -/
theorem boundedNumber_fixedDigits {low high n : Nat} (bound : n < 10 ^ 2) (low_le : low ≤ n)
    (le_high : n ≤ high) (rest : List Char) :
    boundedNumber 1 2 low high (fixedDigits 10 2 n ++ rest) = .ok (n, rest) := by
  rw [boundedNumber, number_fixedDigits (by decide) bound]
  exact if_pos ⟨low_le, le_high⟩

/-- A fraction is read from as many groups of three digits as it is shown in. -/
theorem fractionPart_fraction {nano : Nat} (bound : nano < billion) :
    fractionPart (fraction nano ++ ['Z']) = .ok (nano, ['Z']) := by
  have shown {width : Nat} (some_width : 0 < width) (short : width ≤ 9) {n : Nat}
      (fits : n < 10 ^ width) (same : n * 10 ^ (9 - width) = nano) :
      fractionPart ('.' :: fixedDigits 10 width n ++ ['Z']) = .ok (nano, ['Z']) := by
    rw [List.cons_append, fractionPart_fixedDigits some_width short fits 'Z' [] (by decide), same]
  unfold fraction
  split
  · next none_shown =>
    rw [none_shown]
    rfl
  · split
    · exact shown (by decide) (by decide) (by simp only [billion] at bound; omega) (by omega)
    · split
      · exact shown (by decide) (by decide) (by simp only [billion] at bound; omega) (by omega)
      · exact shown (by decide) (by decide) bound (by omega)

/-! ## The whole text -/

/-- The fields that the answered text of an instant shows. -/
def callerFields (t : Instant) : Fields := { t.storedFields with nano := t.clockNano }

theorem callerFields_settle (t : Instant) : t.settle.callerFields = t.callerFields := by
  rw [callerFields, storedFields_settle, clockNano_settle, callerFields]

section

variable {t : Instant} (regular : t.Regular)

include regular

theorem clockNano_add : t.clockNano + (if t.clockSecond = 60 then billion else 0) = t.nano := by
  have bound := t.nano_lt
  have leap := regular.secondOfDay_mod
  by_cases sixty : t.clockSecond = 60
  · rw [if_pos sixty]
    simp only [clockSecond, clockNano, billion] at *
    omega
  · rw [if_neg sixty]
    simp only [clockSecond, clockNano, billion] at *
    omega

/-- The fields of a regular instant name it. -/
theorem ofFields?_callerFields_of_regular : ofFields? t.callerFields = some t := by
  have named :=
    ofFields?_of_clock (f := t.callerFields) (clock_eq regular) t.valid_date t.first_le t.le_last
      (by simp [callerFields, storedFields])
  rw [named]
  have nano : t.callerFields.nano + (if t.callerFields.second = 60 then billion else 0) = t.nano :=
    clockNano_add regular
  have offset : t.second - t.callerFields.offset = t.second := Int.sub_zero _
  rw [nano, offset, ofSecond?_self regular]

end

/-- The fields of an instant name it as it is shown. -/
theorem ofFields?_callerFields (t : Instant) : ofFields? t.callerFields = some t.settle := by
  rw [← callerFields_settle, ofFields?_callerFields_of_regular t.regular_settle]

/-- The answered text, field by field. -/
theorem toList_text (t : Instant) :
    t.text.toList =
      yearDigits t.year ++ '-' :: (fixedDigits 10 2 t.date.month ++ '-' ::
        (fixedDigits 10 2 t.date.day ++ 'T' :: (fixedDigits 10 2 (t.secondOfDay / 3600) ++ ':' ::
          (fixedDigits 10 2 (t.secondOfDay / 60 % 60) ++ ':' ::
            (fixedDigits 10 2 t.clockSecond ++ (fraction t.clockNano ++ ['Z'])))))) := by
  simp only [text, dateDigits, clockDigits, year, String.toList_ofList, List.append_assoc,
    List.cons_append]

/-- The answered text of an instant shows the fields of the instant. -/
theorem looseFields_text (t : Instant) :
    looseFields t.text.toList = .ok (t.callerFields, []) := by
  have hour : t.secondOfDay / 3600 < 24 := by
    have := t.secondOfDay_lt
    omega
  have minute : t.secondOfDay / 60 % 60 < 60 := by omega
  have second := t.clockSecond_le
  obtain ⟨month_pos, month_le, day_pos, -⟩ := t.valid_date
  have nano : t.clockNano < billion := Nat.mod_lt _ (by decide)
  have marks (c : Char) (visible : isBlank c = false) (rest : List Char) :
      mark c (trimStart (c :: rest)) = .ok ((), rest) := by
    rw [trimStart_of_visible visible, mark_self]
  have zone : looseZone (trimStart ['Z']) = .ok (0, []) := by decide
  rw [toList_text t]
  simp only [looseFields, trimStart_fixedDigits (show 0 < 2 by decide),
    trimStart_yearDigits, yearPart_yearDigits,
    marks '-' (by decide), marks ':' (by decide), middle_self,
    boundedNumber_fixedDigits t.month_date_lt month_pos month_le,
    boundedNumber_fixedDigits t.day_date_lt day_pos t.day_date_le,
    boundedNumber_fixedDigits (show t.secondOfDay / 3600 < 10 ^ 2 by omega) (Nat.zero_le _)
      (show t.secondOfDay / 3600 ≤ 23 by omega),
    boundedNumber_fixedDigits (show t.secondOfDay / 60 % 60 < 10 ^ 2 by omega) (Nat.zero_le _)
      (show t.secondOfDay / 60 % 60 ≤ 59 by omega),
    boundedNumber_fixedDigits (show t.clockSecond < 10 ^ 2 by omega) (Nat.zero_le _) second,
    fractionPart_fraction nano, zone, bind, Except.bind, pure, Except.pure]
  rfl

/-- What an answer shows of an instant is read as the instant settled into the second shown. -/
theorem parse?_text (t : Instant) : parse? t.text = some t.settle := by
  rw [parse?, looseFields_text t]
  exact t.ofFields?_callerFields

theorem regular_of_parse? {s : String} {t : Instant} (read : parse? s = some t) : t.Regular := by
  unfold parse? at read
  split at read
  · split at read
    · exact regular_of_ofFields? read
    · cases read
  · cases read

end StatusPage.Instant
