import Mathlib
import StatusPage.Instant.Reader
import StatusPage.Proofs.Instant.StoredText

/-!
# Reading stored instants

What the store keeps for an instant in the years 0 to 9999 reads back as the instant without what
is finer than a microsecond, a leap second inside a minute as the second that follows
(`ofStored_storedText`). What it keeps for an instant of any other year begins with a sign and reads
back as nothing (`ofStored_of_not_fourDigitYear`).
-/

namespace StatusPage.Instant

open Text

/-! ## Parts of the text -/

theorem length_le_byteLength (cs : List Char) : cs.length ≤ byteLength cs := by
  induction cs with
  | nil => exact Nat.le_refl 0
  | cons c cs ih =>
    have size := c.utf8Size_pos
    simp only [List.length_cons, byteLength]
    omega

theorem isDigit_digitChar {d : Nat} (bound : d < 10) : isDigit (Nat.digitChar d) = true := by
  have table : ∀ d : Fin 10, isDigit (Nat.digitChar d.val) = true := by decide
  exact table ⟨d, bound⟩

/-- The digits at the front of a text that goes on with something else. -/
theorem takeWhile_fixedDigits (width n : Nat) (rest : List Char)
    (stop : rest.takeWhile isDigit = []) :
    (fixedDigits 10 width n ++ rest).takeWhile isDigit = fixedDigits 10 width n := by
  rw [List.takeWhile_append_of_pos, stop, List.append_nil]
  intro c member
  obtain ⟨d, bound, rfl⟩ := exists_digit_of_fixedDigits (by decide) member
  exact isDigit_digitChar bound

theorem digitsValue_fixedDigits {width n : Nat} (bound : n < 10 ^ width) :
    digitsValue (fixedDigits 10 width n) = n := by
  rw [digitsValue, ofDigits_fixedDigits (by decide) (by decide), Nat.pow_eq,
    Nat.mod_eq_of_lt bound]
  rfl

/-- A number in a fixed width is read in that width, even where fewer digits would do. -/
theorem number_fixedDigits {least width n : Nat} (enough : least ≤ width) (bound : n < 10 ^ width)
    (rest : List Char) : number least width (fixedDigits 10 width n ++ rest) = .ok (n, rest) := by
  have length := length_fixedDigits 10 width n
  have bytes : ¬ byteLength (fixedDigits 10 width n ++ rest) < least := by
    have := length_le_byteLength (fixedDigits 10 width n ++ rest)
    rw [List.length_append] at this
    omega
  have digits := takeWhile_fixedDigits width n [] rfl
  rw [List.append_nil] at digits
  simp only [number, if_neg bytes, List.take_left' length, digits, length, Nat.not_lt.2 enough,
    if_false, digitsValue_fixedDigits bound, List.drop_left' length]

/-- The digits of a fraction padded to nine show the fraction in nanoseconds. -/
theorem rightpad_fixedDigits {width : Nat} (short : width ≤ 9) (n : Nat) :
    (fixedDigits 10 width n).rightpad 9 '0' = fixedDigits 10 9 (n * 10 ^ (9 - width)) := by
  have nine : 9 = width + (9 - width) := by omega
  have front : n * 10 ^ (9 - width) / 10 ^ (9 - width) = n :=
    Nat.mul_div_cancel _ (Nat.pow_pos (by decide))
  have digits := fixedDigits_add 10 width (9 - width) (n * 10 ^ (9 - width))
  rw [front, fixedDigits_mul_pow, ← nine] at digits
  rw [digits, List.rightpad, length_fixedDigits]

/-- A fraction of at most nine digits is read in nanoseconds. -/
theorem fractionPart_fixedDigits {width n : Nat} (some_width : 0 < width) (short : width ≤ 9)
    (bound : n < 10 ^ width) (mark : Char) (rest : List Char) (stop : isDigit mark = false) :
    fractionPart ('.' :: (fixedDigits 10 width n ++ mark :: rest)) =
      .ok (n * 10 ^ (9 - width), mark :: rest) := by
  have length := length_fixedDigits 10 width n
  have digits := takeWhile_fixedDigits width n (mark :: rest) (by simp [stop])
  have kept : (fixedDigits 10 width n).take 9 = fixedDigits 10 width n :=
    List.take_of_length_le (by omega)
  have some_digits : fixedDigits 10 width n ≠ [] := List.ne_nil_of_length_pos (by omega)
  have nano : n * 10 ^ (9 - width) < 10 ^ 9 := by
    have nine : 10 ^ 9 = 10 ^ width * 10 ^ (9 - width) := by
      rw [← Nat.pow_add, Nat.add_sub_cancel' short]
    rw [nine]
    exact Nat.mul_lt_mul_of_pos_right bound (Nat.pow_pos (by decide))
  simp only [fractionPart, digits, kept, rightpad_fixedDigits short, length,
    List.drop_left' length, digitsValue_fixedDigits nano, List.append_eq_nil_iff,
    List.cons_ne_nil, and_false, some_digits, if_false]

/-! ## The whole text -/

/-- The fields that the text of an instant shows. -/
def storedFields (t : Instant) : Fields where
  date := t.date
  hour := t.secondOfDay / 3600
  minute := t.secondOfDay / 60 % 60
  second := t.clockSecond
  nano := t.clockNano / 1000 * 1000
  offset := 0

/-- The text does not show where a leap second lies. -/
theorem storedFields_settle (t : Instant) : t.settle.storedFields = t.storedFields := by
  rw [storedFields, date_settle, hour_settle, minuteOfDay_settle, clockSecond_settle,
    clockNano_settle, storedFields]

/-- A regular instant is the one with its second and its nanosecond. -/
theorem ofSecond?_self {t : Instant} (regular : t.Regular) :
    ofSecond? t.second t.nano = some t := by
  unfold ofSecond?
  rw [dif_pos ⟨⟨t.first_le, t.le_last⟩, t.nano_lt, regular⟩]

/-- Fields of a date of the calendar name the instant at their second and nanosecond. -/
theorem ofFields?_of_clock {f : Fields} {clock : Int}
    (clock_eq : f.date.dayNumber * 86400 +
      (f.hour * 3600 + f.minute * 60 + min f.second 59 : Nat) = clock)
    (valid : f.date.Valid) (first : firstSecond ≤ clock) (last : clock ≤ lastSecond)
    (offset : f.offset.natAbs < 86400) :
    ofFields? f = ofSecond? (clock - f.offset) (f.nano + if f.second = 60 then billion else 0) := by
  subst clock_eq
  exact if_pos ⟨valid, first, last, offset⟩

theorem regular_of_ofFields? {f : Fields} {t : Instant} (named : ofFields? f = some t) :
    t.Regular := by
  simp only [ofFields?, ite_eq_iff, reduceCtorEq, and_false, or_false] at named
  exact regular_of_ofSecond? named.2

section

variable {t : Instant} (regular : t.Regular)

include regular

/-- The second and the nanosecond that the clock shows are those of the instant. -/
theorem clock_eq :
    t.date.dayNumber * 86400 + (t.secondOfDay / 3600 * 3600 + t.secondOfDay / 60 % 60 * 60 +
      min t.clockSecond 59 : Nat) = t.second := by
  have bound := t.nano_lt
  have leap := regular.secondOfDay_mod
  have inDay := t.secondOfDay_lt
  have second_eq : t.second = t.second / 86400 * 86400 + t.secondOfDay := by
    unfold secondOfDay
    omega
  rw [dayNumber_date]
  simp only [clockSecond, billion] at *
  omega

theorem clockNano_eq :
    t.clockNano / 1000 * 1000 + (if t.clockSecond = 60 then billion else 0) =
      t.truncate.nano := by
  have bound := t.nano_lt
  have leap := regular.secondOfDay_mod
  by_cases sixty : t.clockSecond = 60
  · rw [if_pos sixty]
    simp only [clockSecond, clockNano, truncate, billion] at *
    omega
  · rw [if_neg sixty]
    simp only [clockSecond, clockNano, truncate, billion] at *
    omega

/-- The fields of a regular instant name it, without what is finer than a microsecond. -/
theorem ofFields?_storedFields_of_regular : ofFields? t.storedFields = some t.truncate := by
  have named :=
    ofFields?_of_clock (f := t.storedFields) (clock_eq regular) t.valid_date t.first_le t.le_last
      (by simp [storedFields])
  rw [named]
  have nano : t.storedFields.nano + (if t.storedFields.second = 60 then billion else 0) =
      t.truncate.nano := clockNano_eq regular
  have offset : t.second - t.storedFields.offset = t.truncate.second := Int.sub_zero _
  rw [nano, offset, ofSecond?_self (regular_truncate.2 regular)]

end

/-- The fields of an instant name what is kept of it. -/
theorem ofFields?_storedFields (t : Instant) : ofFields? t.storedFields = some t.kept := by
  rw [← storedFields_settle, ofFields?_storedFields_of_regular t.regular_settle, truncate_settle]

theorem mark_self (c : Char) (rest : List Char) : mark c (c :: rest) = .ok ((), rest) := by
  simp [mark]

theorem middle_self (rest : List Char) : middle ('T' :: rest) = .ok ((), rest) := by
  simp [middle]

/-- The date of an instant in a year of four digits is read in full width. -/
theorem strictDate_digits {t : Instant} (year : t.FourDigitYear) (rest : List Char) :
    strictDate (fixedDigits 10 4 t.year.toNat ++ '-' :: (fixedDigits 10 2 t.date.month ++ '-' ::
      (fixedDigits 10 2 t.date.day ++ rest))) = .ok (t.date, rest) := by
  have digits : t.year.toNat < 10 ^ 4 := by
    have bounds := year
    simp only [FourDigitYear] at bounds
    omega
  have date : (⟨(t.year.toNat : Int), t.date.month, t.date.day⟩ : Date) = t.date := by
    rw [Int.toNat_of_nonneg year.1]
    rfl
  simp only [strictDate, twoDigits, number_fixedDigits le_rfl digits,
    number_fixedDigits le_rfl t.month_date_lt, number_fixedDigits le_rfl t.day_date_lt, mark_self,
    bind, Except.bind, date, t.valid_date, if_true]

theorem four_le_length_yearDigits (year : Int) : 4 ≤ (yearDigits year).length := by
  by_cases plain : 0 ≤ year ∧ year ≤ 9999
  · rw [yearDigits, if_pos plain, length_fixedDigits]
  · rw [yearDigits, if_neg plain, List.length_cons]
    exact (le_length_paddedDigits 4 _).trans (Nat.le_succ _)

/-- The text of every instant is long enough to show a clock. -/
theorem clockSize_le_byteLength (t : Instant) : clockSize ≤ byteLength t.storedText.toList := by
  have bytes := length_le_byteLength t.storedText.toList
  have digits := four_le_length_yearDigits t.year
  rw [toList_storedText_withinYear, List.length_append, List.length_cons, length_withinYear]
    at bytes
  rw [toList_storedText_withinYear, clockSize]
  omega

/-- The text of an instant in a year of four digits shows the fields of the instant. -/
theorem strictFields_storedText {t : Instant} (year : t.FourDigitYear) :
    strictFields t.storedText.toList = .ok (t.storedFields, []) := by
  have hour : t.secondOfDay / 3600 < 24 := by
    have := t.secondOfDay_lt
    omega
  have minute : t.secondOfDay / 60 % 60 < 60 := by omega
  have second := t.clockSecond_le
  have inRange : ¬ (24 ≤ t.secondOfDay / 3600 ∨ 60 ≤ t.secondOfDay / 60 % 60 ∨
      60 < t.clockSecond) := by omega
  have width := Nat.not_lt.2 t.clockSize_le_byteLength
  have fraction := fractionPart_fixedDigits (by decide) (by decide) t.clockMicro_lt 'Z' []
    (by decide)
  have zone : zonePart (mark ':') ['Z'] = .ok (0, []) := rfl
  rw [toList_storedText year] at width ⊢
  simp only [strictFields, if_neg width, strictDate_digits year, middle_self, twoDigits,
    number_fixedDigits le_rfl (show t.secondOfDay / 3600 < 10 ^ 2 by omega),
    number_fixedDigits le_rfl (show t.secondOfDay / 60 % 60 < 10 ^ 2 by omega),
    number_fixedDigits le_rfl (show t.clockSecond < 10 ^ 2 by omega), mark_self,
    fraction, if_neg inRange, zone, bind, Except.bind, pure, Except.pure]
  rfl

/-- What the store keeps for an instant in a year of four digits reads back as the instant settled
into the second that is shown, without what is finer than a microsecond. -/
theorem ofStored_storedText {t : Instant} (year : t.FourDigitYear) :
    ofStored t.storedText = .ok t.kept := by
  simp only [ofStored, strictFields_storedText year, ne_eq, not_true_eq_false, if_false,
    ofFields?_storedFields]

/-- Instants that are kept in one text are read as one. -/
theorem kept_eq_of_storedText_eq {a b : Instant} (year_a : a.FourDigitYear)
    (year_b : b.FourDigitYear) (same : a.storedText = b.storedText) : a.kept = b.kept := by
  have read := ofStored_storedText year_a
  rw [same, ofStored_storedText year_b] at read
  exact (Except.ok.inj read).symm

/-! ## Years with a sign -/

/-- A year that has not four digits is written with a sign. -/
theorem exists_sign {year : Int} (outside : ¬ (0 ≤ year ∧ year ≤ 9999)) :
    ∃ (sign : Char) (digits : List Char),
      isDigit sign = false ∧ 4 ≤ digits.length ∧ yearDigits year = sign :: digits := by
  refine ⟨if year < 0 then '-' else '+', paddedDigits 4 year.natAbs, ?_,
    le_length_paddedDigits 4 _, if_neg outside⟩
  split <;> decide

/-- What the store keeps for an instant of any other year reads back as nothing. -/
theorem ofStored_of_not_fourDigitYear {t : Instant} (year : ¬ t.FourDigitYear) :
    ofStored t.storedText = .error .invalid := by
  obtain ⟨sign, digits, not_digit, -, written⟩ := exists_sign year
  have width := Nat.not_lt.2 t.clockSize_le_byteLength
  have four : ¬ byteLength t.storedText.toList < 4 := fun short =>
    width (short.trans (by decide))
  have refused : number 4 4 t.storedText.toList = .error .invalid := by
    rw [toList_storedText_withinYear, written, List.cons_append] at four ⊢
    simp [number, four, not_digit]
  simp [ofStored, strictFields, strictDate, width, refused, bind, Except.bind]

end StatusPage.Instant
