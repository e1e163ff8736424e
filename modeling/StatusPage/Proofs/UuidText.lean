import Mathlib
import StatusPage.Proofs.Text.FixedWidth
import StatusPage.Uuid

/-!
# Identifiers and their texts

The grouped form of an identifier reads back as the identifier, and two identifiers are ordered as
their texts. So a table whose keys are texts of identifiers is a table whose keys are identifiers,
and a listing by key is a listing by number.
-/

namespace StatusPage

open Text

namespace Uuid

/-! ## The five groups -/

theorem bits_lt (id : Uuid) : id.bits.toNat < 16 ^ 32 :=
  Nat.lt_of_lt_of_le id.bits.isLt (by norm_num)

/-- The digits of an identifier in the five groups of its text. -/
theorem exists_groups (id : Uuid) :
    ∃ a b c d e : List Char,
      (a.length = 8 ∧ b.length = 4 ∧ c.length = 4 ∧ d.length = 4 ∧ e.length = 12) ∧
      fixedDigits 16 32 id.bits.toNat = a ++ (b ++ (c ++ (d ++ e))) ∧
      id.toList = a ++ '-' :: (b ++ '-' :: (c ++ '-' :: (d ++ '-' :: e))) := by
  have length := length_fixedDigits 16 32 id.bits.toNat
  simp only [toList]
  generalize fixedDigits 16 32 id.bits.toNat = digits at length ⊢
  refine ⟨digits.take 8, (digits.drop 8).take 4, (digits.drop 12).take 4, (digits.drop 16).take 4,
    digits.drop 20, by simp [length], ?_, by simp⟩
  have join (k : Nat) : (digits.drop k).take 4 ++ digits.drop (k + 4) = digits.drop k := by
    rw [← List.drop_drop, List.take_append_drop]
  rw [join 16, join 12, join 8, List.take_append_drop]

theorem length_toList (id : Uuid) : id.toList.length = 36 := by
  obtain ⟨a, b, c, d, e, ⟨ha, hb, hc, hd, he⟩, -, text⟩ := id.exists_groups
  simp [text, ha, hb, hc, hd, he]

/-! ## Order -/

/-- Texts of identifiers are ordered as the numbers of the identifiers. -/
theorem text_lt_text_iff (x y : Uuid) : x.text < y.text ↔ x.bits < y.bits := by
  obtain ⟨a, b, c, d, e, ⟨ha, hb, hc, hd, he⟩, digits, text⟩ := x.exists_groups
  obtain ⟨a', b', c', d', e', ⟨ha', hb', hc', hd', he'⟩, digits', text'⟩ := y.exists_groups
  have order := fixedDigits_lt_iff (by decide) (by decide) x.bits_lt y.bits_lt
  rw [digits, digits', append_lt_append_iff (ha.trans ha'.symm),
    append_lt_append_iff (hb.trans hb'.symm), append_lt_append_iff (hc.trans hc'.symm),
    append_lt_append_iff (hd.trans hd'.symm)] at order
  rw [BitVec.lt_def, ← order, String.lt_iff, Uuid.text, Uuid.text, String.toList_ofList,
    String.toList_ofList, text, text', append_lt_append_iff (ha.trans ha'.symm),
    cons_lt_cons_same, append_lt_append_iff (hb.trans hb'.symm), cons_lt_cons_same,
    append_lt_append_iff (hc.trans hc'.symm), cons_lt_cons_same,
    append_lt_append_iff (hd.trans hd'.symm), cons_lt_cons_same]

/-- Identifiers with one text are one identifier. -/
theorem text_injective {x y : Uuid} (same : x.text = y.text) : x = y := by
  have forwards := (text_lt_text_iff x y).not.1 (by simp [same])
  have backwards := (text_lt_text_iff y x).not.1 (by simp [same])
  have bits : x.bits = y.bits := by
    simp only [BitVec.lt_def] at forwards backwards
    exact BitVec.eq_of_toNat_eq (by omega)
  cases x
  cases y
  exact congrArg Uuid.mk bits

@[simp] theorem text_inj {x y : Uuid} : x.text = y.text ↔ x = y :=
  ⟨text_injective, fun same => by rw [same]⟩

/-! ## Reading -/

/-- No digit below sixteen begins the name space or opens a brace. -/
theorem plain_digitChar {d : Nat} (bound : d < 16) :
    (Nat.digitChar d).toLower ≠ 'u' ∧ Nat.digitChar d ≠ '{' := by
  have table : ∀ d : Fin 16,
      (Nat.digitChar d.val).toLower ≠ 'u' ∧ Nat.digitChar d.val ≠ '{' := by decide
  exact table ⟨d, bound⟩

/-- The grouped form stands alone: it is in no braces and in no name space. -/
theorem unwrap_toList (id : Uuid) : unwrap id.toList = (id.toList, 0, true) := by
  obtain ⟨a, b, c, d, e, ⟨ha, hb, hc, hd, he⟩, digits, text⟩ := id.exists_groups
  cases a with
  | nil => simp at ha
  | cons first a =>
    have member : first ∈ fixedDigits 16 32 id.bits.toNat := by rw [digits]; simp
    obtain ⟨digit, bound, rfl⟩ := exists_digit_of_fixedDigits (by decide) member
    have plain := plain_digitChar bound
    simp [unwrap, urn, text, plain]

/-- What stands a number of characters behind a group and its hyphen. -/
theorem drop_behind {group : List Char} {width : Nat} (length : group.length = width)
    (mark : Char) (rest : List Char) (k : Nat) :
    (group ++ mark :: rest).drop (width + 1 + k) = rest.drop k := by
  subst length
  rw [← List.drop_drop, List.drop_length_add_append]
  rfl

theorem ofGrouped?_toList (id : Uuid) : ofGrouped? id.toList = some id := by
  obtain ⟨a, b, c, d, e, ⟨ha, hb, hc, hd, he⟩, digits, text⟩ := id.exists_groups
  have read := ofDigits_fixedDigits (show 0 < 16 by decide) (by decide) 32 id.bits.toNat
  rw [digits, Nat.pow_eq, Nat.mod_eq_of_lt id.bits_lt] at read
  have behind_a := drop_behind ha '-' (b ++ '-' :: (c ++ '-' :: (d ++ '-' :: e)))
  have behind_b := drop_behind hb '-' (c ++ '-' :: (d ++ '-' :: e))
  have behind_c := drop_behind hc '-' (d ++ '-' :: e)
  have behind_d := drop_behind hd '-' e
  rw [ofGrouped?, if_pos (by simp [text, ha, hb, hc, hd, he]), text, behind_a 0,
    behind_a 5, behind_a 10, behind_a 15, behind_b 0, behind_b 5, behind_b 10, behind_c 0,
    behind_c 5, behind_d 0, List.take_left' ha]
  simp only [List.drop_zero, List.take_left' hb, List.take_left' hc, List.take_left' hd,
    List.append_assoc, ofBare?, read]
  simp [ha, hb, hc, hd, he, ofNat]

theorem ofList?_toList (id : Uuid) : ofList? id.toList = some id := by
  have bare : ofBare? id.toList = none := by simp [ofBare?, length_toList]
  simp [ofList?, unwrap_toList, bare, ofGrouped?_toList]

/-- The text of an identifier reads back as the identifier. -/
@[simp] theorem parse_text (id : Uuid) : parse id.text = .ok id := by
  rw [parse, text, String.toList_ofList, ofList?_toList]

end Uuid

end StatusPage
