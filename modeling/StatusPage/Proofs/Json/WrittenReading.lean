import Mathlib
import StatusPage.Json.Reader
import StatusPage.Json.Written
import StatusPage.Proofs.Text.Utf8

/-!
# What is written as JSON is read back

The text of a value is read as the value, to its end (`readSymbols_write`). Behind a value there is
the end of the text, a comma or a closing bracket, and `Closes` is what makes a reader of digits
stop there. Integers are read if binary floating point cannot overflow on them, which is so for all
that 64 bits hold (`exceedsRange_of_lt`).
-/

namespace StatusPage

open Text

/-! ## Numbers that do not overflow -/

namespace Binary

theorem nearestQuotient_le_succ (num den : Nat) : nearestQuotient num den ≤ num / den + 1 := by
  unfold nearestQuotient
  split <;> omega

/-- Rounding an integer to a number of bits keeps both parts of it within bounds. -/
theorem ofQuotient_bounds (f : Format) {num k : Nat} (small : num < 2 ^ k) :
    -(f.width : Int) ≤ (f.ofQuotient num 1).exponent ∧
      (f.ofQuotient num 1).exponent ≤ max f.least (k + 1) ∧
      (f.ofQuotient num 1).significand ≤ 2 ^ (k + f.width) := by
  have log_le : num.log2 ≤ k := by
    by_cases zero : num = 0
    · simp [zero]
    · exact Nat.le_of_lt ((Nat.log2_lt zero).2 small)
  have log_one : Nat.log2 1 = 0 := by decide
  simp only [Format.ofQuotient, log_one]
  generalize exponent_eq : max f.least _ = e
  have low : -(f.width : Int) ≤ e := by
    rw [← exponent_eq]
    refine le_max_of_le_right ?_
    split <;> omega
  have high : e ≤ max f.least (k + 1) := by
    rw [← exponent_eq]
    refine max_le_max_left _ ?_
    split <;> omega
  refine ⟨low, high, (nearestQuotient_le_succ _ _).trans ?_⟩
  have shift : (-e).toNat ≤ f.width := by omega
  have power : 2 ^ (-e).toNat ≤ 2 ^ f.width := Nat.pow_le_pow_right (by decide) shift
  have quotient : (num <<< (-e).toNat) / (1 <<< e.toNat) ≤ num * 2 ^ f.width := by
    refine (Nat.div_le_self _ _).trans ?_
    rw [Nat.shiftLeft_eq]
    exact Nat.mul_le_mul_left num power
  have positive : 0 < 2 ^ f.width := Nat.two_pow_pos _
  rw [Nat.pow_add]
  nlinarith

end Binary

namespace Json

open Binary Format

/-- No integer of 64 bits is beyond the range of binary floating point. -/
theorem exceedsRange_of_lt {n : Nat} (small : n < 2 ^ 64) : exceedsRange ⟨n, 0⟩ = false := by
  have one : binary64.ofQuotient (Nat.pow 10 (0 : Int).toNat) 1 = ⟨2 ^ 52, -52⟩ := by decide
  obtain ⟨low, high, bits⟩ := ofQuotient_bounds binary64 small
  rw [exceedsRange, one, mul, Binary.Format.round]
  generalize binary64.ofQuotient n 1 = x at low high bits
  have product : x.significand * 2 ^ 52 < 2 ^ 170 := by
    simp only [binary64] at bits
    omega
  obtain ⟨-, product_high, product_bits⟩ :=
    ofQuotient_bounds ⟨binary64.width, binary64.least - (x.exponent + -52)⟩ product
  generalize ofQuotient ⟨binary64.width, binary64.least - (x.exponent + -52)⟩
    (x.significand * 2 ^ 52) 1 = y at product_high product_bits
  simp only [binary64] at low high product_high product_bits
  have exponent : (y.exponent + (x.exponent + -52)).toNat ≤ 200 := by omega
  have power : 2 ^ (y.exponent + (x.exponent + -52)).toNat ≤ 2 ^ 200 :=
    Nat.pow_le_pow_right (by decide) exponent
  have small_product : y.significand <<< (y.exponent + (x.exponent + -52)).toNat ≤ largest := by
    rw [Nat.shiftLeft_eq]
    refine (Nat.mul_le_mul product_bits power).trans ?_
    decide +kernel
  have in_range : largest ≤ largest <<< (-(y.exponent + (x.exponent + -52))).toNat := by
    rw [Nat.shiftLeft_eq]
    exact Nat.le_mul_of_pos_right _ (Nat.two_pow_pos _)
  have fits : overflows ⟨y.significand, y.exponent + (x.exponent + -52)⟩ = false := by
    simp only [overflows, decide_eq_false_iff_not, Nat.not_lt]
    exact small_product.trans in_range
  rw [fits]
  simp [largestPower]

/-! ## Digits -/

theorem ofDigits_toDigits (n : Nat) : ofDigits 10 (Nat.toDigits 10 n) = some n := by
  induction n using Nat.strongRecOn with
  | ind n ih =>
    by_cases single : n < 10
    · rw [Nat.toDigits_of_lt_base single, ofDigits, ofDigitsFrom, digitValue?_digitChar single
        (by decide)]
      simp [ofDigitsFrom]
    · have last : digitValue? 10 (Nat.digitChar (n % 10)) = some (n % 10) :=
        digitValue?_digitChar (by omega) (by decide)
      have front := ih (n / 10) (by omega)
      rw [ofDigits] at front
      rw [Nat.toDigits_of_base_le (by decide) (Nat.le_of_not_lt single), ofDigits,
        ofDigitsFrom_append, front, Option.bind_some, ofDigitsFrom, last]
      simp only [Option.bind_some, ofDigitsFrom, Option.some.injEq]
      omega

theorem head?_toDigits {n : Nat} (positive : 0 < n) : (Nat.toDigits 10 n).head? ≠ some '0' := by
  induction n using Nat.strongRecOn with
  | ind n ih =>
    by_cases single : n < 10
    · have table : ∀ d : Fin 10, 0 < d.val → Nat.digitChar d.val ≠ '0' := by decide
      rw [Nat.toDigits_of_lt_base single]
      simpa using table ⟨n, single⟩ positive
    · have front := ih (n / 10) (by omega) (by omega)
      rw [Nat.toDigits_of_base_le (by decide) (Nat.le_of_not_lt single),
        List.head?_append_of_ne_nil _ Nat.toDigits_ne_nil]
      exact front

theorem digit_of_mem_toDigits {n : Nat} {c : Char} (member : c ∈ Nat.toDigits 10 n) :
    '0' ≤ c ∧ c ≤ '9' := by
  have digit := Nat.isDigit_of_mem_toDigits (by decide) (by decide) member
  simp only [Char.isDigit, ge_iff_le, Bool.and_eq_true, decide_eq_true_eq] at digit
  exact digit

theorem takeDigits_append {digits : List Char} (all : ∀ c ∈ digits, '0' ≤ c ∧ c ≤ '9')
    {rest : List Symbol} (stop : takeDigits rest = ([], rest)) :
    takeDigits (digits.map some ++ rest) = (digits, rest) := by
  induction digits with
  | nil => exact stop
  | cons c cs ih =>
    obtain ⟨first, others⟩ := List.forall_mem_cons.1 all
    rw [List.map_cons, List.cons_append, takeDigits, if_pos first, ih others]

theorem le_of_ofDigitsFrom {cs : List Char} {acc n : Nat}
    (shows : ofDigitsFrom 10 acc cs = some n) : acc ≤ n := by
  induction cs generalizing acc with
  | nil =>
    rw [ofDigitsFrom, Option.some.injEq] at shows
    omega
  | cons c rest ih =>
    obtain ⟨digit, -, later⟩ := Option.bind_eq_some_iff.1 shows
    have := ih later
    omega

/-- Digits are all kept while the number that they show is small enough. -/
theorem takeFitting_eq {cs : List Char} {acc n bound : Nat}
    (shows : ofDigitsFrom 10 acc cs = some n) (small : n < bound) :
    Decimal.takeFitting (fun acc digit => acc * 10 + digit < bound) acc cs = (n, []) := by
  induction cs generalizing acc with
  | nil =>
    rw [ofDigitsFrom, Option.some.injEq] at shows
    rw [Decimal.takeFitting, shows]
  | cons c rest ih =>
    obtain ⟨digit, value, later⟩ := Option.bind_eq_some_iff.1 shows
    have fits := Nat.lt_of_le_of_lt (le_of_ofDigitsFrom later) small
    rw [Decimal.takeFitting, value, Option.getD_some]
    simp only [fits, decide_true, if_true]
    exact ih later

/-- The digits of a number of 64 bits, with a sign before them unless the number is zero, are read
as the number. -/
theorem numberOf_toDigits {n : Nat} (small : n < 2 ^ 64) (negative : Bool)
    (sign : negative = true → 0 < n) :
    numberOf negative (Nat.toDigits 10 n) none none =
      .int (if negative then -(n : Int) else n) := by
  have shows := ofDigits_toDigits n
  have kept : decimalOf (Nat.toDigits 10 n) [] 0 = ⟨n, 0⟩ := by
    rw [decimalOf, Decimal.ofDigits, Nat.shiftLeft_eq, Nat.one_mul, takeFitting_eq shows small]
    rfl
  have no_zero : (negative && n == 0) = false := by
    cases negative with
    | false => rfl
    | true => simpa using Nat.ne_of_gt (sign rfl)
  rw [numberOf]
  simp only [Option.getD_none, List.append_nil, shows, Option.getD_some, kept,
    exceedsRange_of_lt small, Bool.false_eq_true, if_false, Option.isSome_none, no_zero,
    Bool.or_false]

/-! ## What may stand behind a value -/

/-- The text ends here, or goes on with a comma or a closing bracket. -/
def Closes (rest : List Symbol) : Prop :=
  rest = [] ∨ ∃ c tail, rest = some c :: tail ∧ (c = ',' ∨ c = ']' ∨ c = '}')

section

variable {rest : List Symbol}

theorem Closes.takeDigits (closes : Closes rest) : takeDigits rest = ([], rest) := by
  rcases closes with rfl | ⟨c, tail, rfl, rfl | rfl | rfl⟩ <;> rfl

theorem Closes.takeFraction? (closes : Closes rest) : takeFraction? rest = some (none, rest) := by
  rcases closes with rfl | ⟨c, tail, rfl, rfl | rfl | rfl⟩ <;> rfl

theorem Closes.takeExponent? (closes : Closes rest) : takeExponent? rest = some (none, rest) := by
  rcases closes with rfl | ⟨c, tail, rfl, rfl | rfl | rfl⟩ <;> rfl

theorem readNumber_toDigits (closes : Closes rest) {n : Nat} (small : n < 2 ^ 64)
    (negative : Bool) (sign : negative = true → 0 < n) :
    readNumber negative ((Nat.toDigits 10 n).map some ++ rest) =
      (.int (if negative then -(n : Int) else n), rest) := by
  have digits := takeDigits_append (fun c => digit_of_mem_toDigits (n := n)) closes.takeDigits
  have no_zero : ¬ (1 < (Nat.toDigits 10 n).length ∧ (Nat.toDigits 10 n).head? = some '0') := by
    rintro ⟨long, zero⟩
    refine head?_toDigits (Nat.pos_of_ne_zero ?_) zero
    rintro rfl
    exact absurd long (by decide)
  have shown : ∃ first others, Nat.toDigits 10 n = first :: others :=
    List.exists_cons_of_ne_nil Nat.toDigits_ne_nil
  have value := numberOf_toDigits small negative sign
  generalize Nat.toDigits 10 n = ds at digits no_zero shown value
  obtain ⟨first, others, rfl⟩ := shown
  rw [readNumber, digits]
  dsimp only
  rw [if_neg no_zero, closes.takeFraction?]
  dsimp only
  rw [closes.takeExponent?]
  dsimp only
  rw [value]

end

/-! ## Strings -/

/-- The digits of a 16-bit unit are read as the unit. -/
theorem exists_unitOf? {n : Nat} (small : n < 65536) :
    ∃ a b c d, fixedDigits 16 4 n = [a, b, c, d] ∧
      unitOf? (some a) (some b) (some c) (some d) = some n := by
  refine ⟨_, _, _, _, rfl, ?_⟩
  have digits : ofDigits 16 (fixedDigits 16 4 n) = some (n % Nat.pow 16 4) :=
    ofDigits_fixedDigits (by decide) (by decide) 4 n
  have whole : n % Nat.pow 16 4 = n := Nat.mod_eq_of_lt small
  rw [whole] at digits
  exact digits

/-- A unit below the surrogates is a character of its own. -/
theorem assemble?_unit {n : Nat} (small : n < 0xD800) (parts : List Piece) :
    assemble? (.unit n :: parts) = (assemble? parts).map (Char.ofNat n :: ·) := by
  have not_high : ¬ (0xD800 ≤ n ∧ n < 0xDC00) := by omega
  have not_low : ¬ (0xDC00 ≤ n ∧ n < 0xE000) := by omega
  have not_half : ¬ (0xD800 ≤ n ∧ n < 0xE000) := by omega
  match parts with
  | [] => simp [assemble?, not_half]
  | .plain c :: rest => simp [assemble?, not_half]
  | .foreign :: rest => simp [assemble?]
  | .unit low :: rest => rw [assemble?, if_neg not_high, if_neg not_low]

/-- A character of a string is read as a part of its own, which stands for the character wherever it
comes. -/
theorem exists_piece (c : Char) :
    ∃ piece, (∀ rest, pieces? ((escape c).map some ++ rest) =
        (pieces? rest).map fun (parts, rest) => (piece :: parts, rest)) ∧
      ∀ parts, assemble? (piece :: parts) = (assemble? parts).map (c :: ·) := by
  unfold escape
  split
  · exact ⟨.plain '"', fun _ => rfl, fun _ => rfl⟩
  · exact ⟨.plain '\\', fun _ => rfl, fun _ => rfl⟩
  · exact ⟨.plain '\x08', fun _ => rfl, fun _ => rfl⟩
  · exact ⟨.plain '\t', fun _ => rfl, fun _ => rfl⟩
  · exact ⟨.plain '\n', fun _ => rfl, fun _ => rfl⟩
  · exact ⟨.plain '\x0c', fun _ => rfl, fun _ => rfl⟩
  · exact ⟨.plain '\r', fun _ => rfl, fun _ => rfl⟩
  · next quote backslash _ _ _ _ _ =>
    split
    · next control =>
      obtain ⟨a, b, d, e, digits, unit⟩ := exists_unitOf? (n := c.toNat) (by omega)
      have whole := assemble?_unit (n := c.toNat) (by omega)
      rw [Char.ofNat_toNat] at whole
      refine ⟨.unit c.toNat, fun rest => ?_, whole⟩
      rw [digits]
      simp only [List.cons_append, List.nil_append, List.map_cons, List.map_nil, pieces?, unit]
    · next shown =>
      refine ⟨.plain c, fun rest => ?_, fun _ => rfl⟩
      rw [List.map_cons, List.map_nil, List.singleton_append, pieces?, if_neg shown]
      · exact quote
      · exact fun _ _ _ _ _ _ => backslash
      · exact fun _ _ _ => backslash
      · exact backslash

/-- The characters of a string are read up to the quote that ends it. -/
theorem exists_pieces (cs : List Char) :
    ∃ parts, (∀ rest, pieces? ((cs.flatMap escape).map some ++ some '"' :: rest) =
        some (parts, rest)) ∧ assemble? parts = some cs := by
  induction cs with
  | nil => exact ⟨[], fun _ => rfl, rfl⟩
  | cons c cs ih =>
    obtain ⟨piece, reads, means⟩ := exists_piece c
    obtain ⟨parts, others_read, others_mean⟩ := ih
    refine ⟨piece :: parts, fun rest => ?_, ?_⟩
    · rw [List.flatMap_cons, List.map_append, List.append_assoc, reads, others_read]
      rfl
    · rw [means, others_mean]
      rfl

/-- A written string is read as it was, whatever comes after it. -/
theorem exists_pieces_writeString (s : String) :
    ∃ parts, stringOf? parts = some s ∧ ∀ rest, ∃ tail,
      (writeString s).map some ++ rest = some '"' :: tail ∧ pieces? tail = some (parts, rest) := by
  obtain ⟨parts, reads, means⟩ := exists_pieces s.toList
  refine ⟨parts, ?_, fun rest => ⟨_, ?_, reads rest⟩⟩
  · rw [stringOf?, means, Option.map_some, String.ofList_toList]
  · simp [writeString]

theorem escape_ne_nil (c : Char) : escape c ≠ [] := by
  unfold escape
  split
  case h_8 => split <;> simp
  all_goals exact List.cons_ne_nil _ _

/-- A written string is no shorter than the string. -/
theorem length_le_writeString (text : String) : text.length ≤ (writeString text).length := by
  have escaped := length_le_length_flatMap escape_ne_nil text.toList
  rw [String.length_toList] at escaped
  rw [writeString, List.cons_append, List.length_cons, List.length_append]
  omega

/-- No character is escaped in more than six. -/
theorem length_escape_le (c : Char) : (escape c).length ≤ 6 := by
  unfold escape
  split
  case h_8 => split <;> simp [length_fixedDigits]
  all_goals exact Nat.le_of_ble_eq_true rfl

theorem length_writeString_le (text : String) :
    (writeString text).length ≤ 6 * text.length + 2 := by
  have escaped := length_flatMap_le length_escape_le text.toList
  rw [String.length_toList] at escaped
  rw [writeString, List.cons_append, List.length_cons, List.length_append, List.length_singleton]
  omega

/-! ## Values -/

mutual

/-- Whether all integers of a value are within 64 bits. -/
def InRange : Json → Prop
  | .int value => value.natAbs < 2 ^ 64
  | .array items => ItemsInRange items
  | .object members => MembersInRange members
  | _ => True
termination_by structural j => j

/-- Whether all integers of elements are within 64 bits. -/
def ItemsInRange : List Json → Prop
  | [] => True
  | item :: items => item.InRange ∧ ItemsInRange items
termination_by structural items => items

/-- Whether all integers of members are within 64 bits. -/
def MembersInRange : List (String × Json) → Prop
  | [] => True
  | (_, value) :: members => value.InRange ∧ MembersInRange members
termination_by structural members => members

end

/-- A decimal digit is one of ten characters. -/
theorem mem_digits {c : Char} (digit : '0' ≤ c ∧ c ≤ '9') :
    c ∈ ['0', '1', '2', '3', '4', '5', '6', '7', '8', '9'] := by
  have low : 48 ≤ c.toNat := digit.1
  have high : c.toNat ≤ 57 := digit.2
  have number := Char.ofNat_toNat c
  interval_cases c.toNat <;> simp [← number]

/-- A written number is its digits, perhaps after a minus. -/
theorem exists_integer_eq (value : Int) :
    ((integer value).toList = Nat.toDigits 10 value.natAbs ∧ 0 ≤ value) ∨
      ((integer value).toList = '-' :: Nat.toDigits 10 value.natAbs ∧ value < 0) := by
  cases value with
  | ofNat n => exact Or.inl ⟨String.toList_ofList, Int.natCast_nonneg n⟩
  | negSucc n =>
    refine Or.inr ⟨?_, Int.negSucc_lt_zero n⟩
    rw [integer, natural, String.toList_append]
    exact congrArg ('-' :: ·) String.toList_ofList

theorem exists_toDigits_eq_cons (n : Nat) :
    ∃ c cs, Nat.toDigits 10 n = c :: cs ∧ '0' ≤ c ∧ c ≤ '9' := by
  obtain ⟨c, cs, digits⟩ := List.exists_cons_of_ne_nil (Nat.toDigits_ne_nil (n := n) (b := 10))
  exact ⟨c, cs, digits, digit_of_mem_toDigits (n := n) (by rw [digits]; exact List.mem_cons_self)⟩

/-- A value begins with a character that is neither white space nor a closing bracket. -/
theorem exists_write_eq_cons (j : Json) :
    ∃ c cs, j.write = c :: cs ∧ isGap (some c) = false ∧ c ≠ ']' := by
  cases j with
  | null => exact ⟨_, _, rfl, rfl, by decide⟩
  | bool value => cases value <;> exact ⟨_, _, rfl, rfl, by decide⟩
  | int value =>
    rw [write]
    rcases exists_integer_eq value with ⟨digits, -⟩ | ⟨digits, -⟩
    · obtain ⟨c, cs, shown, digit⟩ := exists_toDigits_eq_cons value.natAbs
      refine ⟨c, cs, digits.trans shown, ?_⟩
      have listed := mem_digits digit
      simp only [List.mem_cons, List.not_mem_nil, or_false] at listed
      rcases listed with rfl | rfl | rfl | rfl | rfl | rfl | rfl | rfl | rfl | rfl <;> decide
    · exact ⟨_, _, digits, rfl, by decide⟩
  | string value => exact ⟨_, _, rfl, rfl, by decide⟩
  | array items => exact ⟨_, _, rfl, rfl, by decide⟩
  | object members => exact ⟨_, _, rfl, rfl, by decide⟩

section

variable {fuel : Nat} {rest : List Symbol}

theorem readValue_integer (closes : Closes rest) {value : Int} (small : value.natAbs < 2 ^ 64) :
    readValue (fuel + 1) ((integer value).toList.map some ++ rest) = (.int value, rest) := by
  rcases exists_integer_eq value with ⟨digits, sign⟩ | ⟨digits, sign⟩
  · have read := readNumber_toDigits closes small false (by simp)
    rw [digits]
    obtain ⟨c, cs, shown, digit⟩ := exists_toDigits_eq_cons value.natAbs
    rw [shown] at read ⊢
    have first : readValue (fuel + 1) ((c :: cs).map some ++ rest) =
        readNumber false ((c :: cs).map some ++ rest) := by
      have listed := mem_digits digit
      simp only [List.mem_cons, List.not_mem_nil, or_false] at listed
      rcases listed with rfl | rfl | rfl | rfl | rfl | rfl | rfl | rfl | rfl | rfl <;> rfl
    rw [first, read]
    simp only [Bool.false_eq_true, if_false, Prod.mk.injEq, Reading.int.injEq, and_true]
    omega
  · have read := readNumber_toDigits closes small true (by intro _; omega)
    have first : readValue (fuel + 1) (('-' :: Nat.toDigits 10 value.natAbs).map some ++ rest) =
        readNumber true ((Nat.toDigits 10 value.natAbs).map some ++ rest) := rfl
    rw [digits, first, read]
    simp only [if_true, Prod.mk.injEq, Reading.int.injEq, and_true]
    omega

/-- A character that is no white space is not skipped. -/
theorem skipGaps_cons {c : Char} (no_gap : isGap (some c) = false) (text : List Symbol) :
    skipGaps (some c :: text) = some c :: text := by
  rw [skipGaps, List.dropWhile_cons_of_neg (by simp [no_gap])]

theorem readValue_writeString (s : String) :
    readValue (fuel + 1) ((writeString s).map some ++ rest) = (.string s, rest) := by
  obtain ⟨parts, means, reads⟩ := exists_pieces_writeString s
  obtain ⟨tail, text, read⟩ := reads rest
  rw [text, readValue, skipGaps_cons rfl]
  simp [read, means]

/-- An array with something in it is read as its elements. -/
theorem readValue_bracket {c : Char} (no_gap : isGap (some c) = false) (no_end : c ≠ ']')
    (text : List Symbol) : readValue (fuel + 1) (some '[' :: some c :: text) =
      (.array (readItems fuel (some c :: text)).1, (readItems fuel (some c :: text)).2) := by
  rw [readValue, skipGaps_cons rfl]
  simp [skipGaps_cons no_gap, no_end]

end

/-- An object with something in it is read as its members. -/
theorem readValue_brace (fuel : Nat) (text : List Symbol) :
    readValue (fuel + 1) (some '{' :: some '"' :: text) =
      (.object (readMembers fuel (some '"' :: text)).1,
        (readMembers fuel (some '"' :: text)).2) := rfl

section

variable {fuel : Nat} {text tail rest : List Symbol}

theorem readItems_last {item : Reading} (first : readValue fuel text = (item, some ']' :: rest)) :
    readItems (fuel + 1) text = ([item], rest) := by
  rw [readItems, first]
  rfl

theorem readItems_more {item : Reading} {items : List Reading}
    (first : readValue fuel text = (item, some ',' :: tail))
    (others : readItems fuel tail = (items, rest)) :
    readItems (fuel + 1) text = (item :: items, rest) := by
  rw [readItems, first]
  simp [others, skipGaps_cons (c := ',') rfl]

theorem readMembers_last (key : String) {value : Reading}
    (first : readValue fuel tail = (value, some '}' :: rest)) :
    readMembers (fuel + 1) ((writeString key).map some ++ some ':' :: tail) =
      ([(some key, value)], rest) := by
  obtain ⟨parts, means, reads⟩ := exists_pieces_writeString key
  obtain ⟨after, shown, read⟩ := reads (some ':' :: tail)
  rw [shown, readMembers, skipGaps_cons rfl]
  simp [read, means, first, skipGaps_cons (c := ':') rfl, skipGaps_cons (c := '}') rfl]

theorem readMembers_more (key : String) {value : Reading}
    {members : List (Option String × Reading)} {more : List Symbol}
    (first : readValue fuel tail = (value, some ',' :: more))
    (others : readMembers fuel more = (members, rest)) :
    readMembers (fuel + 1) ((writeString key).map some ++ some ':' :: tail) =
      ((some key, value) :: members, rest) := by
  obtain ⟨parts, means, reads⟩ := exists_pieces_writeString key
  obtain ⟨after, shown, read⟩ := reads (some ':' :: tail)
  rw [shown, readMembers, skipGaps_cons rfl]
  simp [read, means, first, others, skipGaps_cons (c := ':') rfl, skipGaps_cons (c := ',') rfl]

end

theorem closes_cons {c : Char} (closing : c = ',' ∨ c = ']' ∨ c = '}') (tail : List Symbol) :
    Closes (some c :: tail) := Or.inr ⟨c, tail, rfl, closing⟩

/-- The elements of a written array begin as the first of them does. -/
theorem exists_writeItems_eq_cons (item : Json) (items : List Json) :
    ∃ c cs, writeItems (item :: items) = c :: cs ∧ isGap (some c) = false ∧ c ≠ ']' := by
  obtain ⟨c, cs, first, facts⟩ := item.exists_write_eq_cons
  cases items with
  | nil => exact ⟨c, cs ++ [']'], by rw [writeItems, first, List.cons_append], facts⟩
  | cons next items =>
    refine ⟨c, cs ++ ',' :: writeItems (next :: items), ?_, facts⟩
    rw [writeItems, first, List.cons_append]
    exact List.cons_ne_nil _ _

/-- The members of a written object begin with a quote. -/
theorem exists_writeMembers_eq_cons (member : String × Json) (members : List (String × Json)) :
    ∃ tail, writeMembers (member :: members) = '"' :: tail := by
  obtain ⟨key, value⟩ := member
  cases members with
  | nil => exact ⟨_, rfl⟩
  | cons next members => exact ⟨_, rfl⟩

theorem length_write_pos (j : Json) : 0 < j.write.length := by
  obtain ⟨c, cs, shown, -⟩ := j.exists_write_eq_cons
  rw [shown]
  exact Nat.succ_pos _

mutual

/-- A written value is read as it was, and what closes it is left. The fuel is enough if it is no
less than the text is long. -/
theorem readValue_write : (j : Json) → j.InRange → ∀ fuel, j.write.length ≤ fuel →
    ∀ rest, Closes rest →
    readValue fuel (j.write.map some ++ rest) = (j.reading, rest)
  | j, small, fuel, enough, rest, closes => by
    obtain ⟨fuel, rfl⟩ := Nat.exists_eq_succ_of_ne_zero
      (Nat.ne_of_gt (Nat.lt_of_lt_of_le j.length_write_pos enough))
    match j with
    | .null => rfl
    | .bool true => rfl
    | .bool false => rfl
    | .int value => exact readValue_integer closes small
    | .string value => exact readValue_writeString value
    | .array [] => rfl
    | .array (item :: items) =>
      obtain ⟨c, cs, first, no_gap, no_end⟩ := exists_writeItems_eq_cons item items
      have read := readItems_write (item :: items) (List.cons_ne_nil _ _) small fuel
        (by simpa [write] using enough) rest
      rw [first] at read
      rw [write, first]
      rw [List.map_cons, List.cons_append] at read ⊢
      rw [List.map_cons, List.cons_append, readValue_bracket no_gap no_end, read]
      rfl
    | .object [] => rfl
    | .object (member :: members) =>
      obtain ⟨tail, first⟩ := exists_writeMembers_eq_cons member members
      have read := readMembers_write (member :: members) (List.cons_ne_nil _ _) small fuel
        (by simpa [write] using enough) rest
      rw [first] at read
      rw [write, first]
      rw [List.map_cons, List.cons_append] at read ⊢
      rw [List.map_cons, List.cons_append, readValue_brace, read]
      rfl
termination_by structural j => j

theorem readItems_write : (items : List Json) → items ≠ [] → ItemsInRange items →
    ∀ fuel, (writeItems items).length ≤ fuel → ∀ rest,
    readItems fuel ((writeItems items).map some ++ rest) = (readingItems items, rest)
  | [], some_items, _, _, _, _ => absurd rfl some_items
  | [item], _, small, 0, enough, rest => by
    simp [writeItems] at enough
  | [item], _, small, fuel + 1, enough, rest => by
    rw [writeItems, List.length_append] at enough
    have first := readValue_write item small.1 fuel (by simpa using enough) _
      (closes_cons (c := ']') (by simp) rest)
    rw [writeItems, List.map_append, List.append_assoc]
    exact readItems_last first
  | item :: next :: items, _, small, 0, enough, rest => by
    simp [writeItems] at enough
  | item :: next :: items, _, small, fuel + 1, enough, rest => by
    simp only [writeItems, List.length_append, List.length_cons] at enough
    have first := readValue_write item small.1 fuel (by omega) _
      (closes_cons (c := ',') (by simp) ((writeItems (next :: items)).map some ++ rest))
    have others := readItems_write (next :: items) (List.cons_ne_nil _ _) small.2 fuel
      (by omega) rest
    simp only [writeItems, List.map_append, List.map_cons, List.append_assoc, List.cons_append]
    exact readItems_more first others
termination_by structural items => items

theorem readMembers_write : (members : List (String × Json)) → members ≠ [] →
    MembersInRange members → ∀ fuel, (writeMembers members).length ≤ fuel → ∀ rest,
    readMembers fuel ((writeMembers members).map some ++ rest) = (readingMembers members, rest)
  | [], some_members, _, _, _, _ => absurd rfl some_members
  | [(key, value)], _, small, 0, enough, rest => by
    simp [writeMembers] at enough
  | [(key, value)], _, small, fuel + 1, enough, rest => by
    simp only [writeMembers, List.length_append, List.length_cons] at enough
    have first := readValue_write value small.1 fuel (by omega) _
      (closes_cons (c := '}') (by simp) rest)
    simp only [writeMembers, List.map_append, List.map_cons, List.map_nil, List.append_assoc,
      List.cons_append, List.nil_append]
    exact readMembers_last key first
  | (key, value) :: next :: members, _, small, 0, enough, rest => by
    simp [writeMembers] at enough
  | (key, value) :: next :: members, _, small, fuel + 1, enough, rest => by
    simp only [writeMembers, List.length_append, List.length_cons] at enough
    have first := readValue_write value small.1 fuel (by omega) _
      (closes_cons (c := ',') (by simp) ((writeMembers (next :: members)).map some ++ rest))
    have others := readMembers_write (next :: members) (List.cons_ne_nil _ _) small.2
      fuel (by omega) rest
    simp only [writeMembers, List.map_append, List.map_cons, List.append_assoc, List.cons_append]
    exact readMembers_more key first others
termination_by structural members => members

end

/-- The text of a value is read as the value, and nothing comes after it. -/
theorem readSymbols_write {j : Json} (small : j.InRange) :
    readSymbols (j.write.map some) = ⟨j.reading, false⟩ := by
  have read := readValue_write j small ((j.write.map some).length + 1) (by simp) []
    (Or.inl rfl)
  rw [List.append_nil] at read
  rw [readSymbols, read]
  rfl

/-! ## Readings of values -/

mutual

theorem sound_reading : (j : Json) → j.reading.sound = true
  | .null | .bool _ | .int _ | .string _ => rfl
  | .array items => soundItems_readingItems items
  | .object members => soundMembers_readingMembers members
termination_by structural j => j

theorem soundItems_readingItems : (items : List Json) →
    Reading.soundItems (readingItems items) = true
  | [] => rfl
  | item :: items => by
    rw [readingItems, Reading.soundItems, sound_reading item, soundItems_readingItems items]
    rfl
termination_by structural items => items

theorem soundMembers_readingMembers : (members : List (String × Json)) →
    Reading.soundMembers (readingMembers members) = true
  | [] => rfl
  | (key, value) :: members => by
    rw [readingMembers, Reading.soundMembers, sound_reading value,
      soundMembers_readingMembers members]
    rfl
termination_by structural members => members

end

end Json

end StatusPage
