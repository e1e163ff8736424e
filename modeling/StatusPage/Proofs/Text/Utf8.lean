import Mathlib
import StatusPage.Text.Utf8

/-!
# Texts sent as bytes

What a text is written as in UTF-8 is read back as its characters (`utf8Decode_utf8Encode`). A
character takes one to four bytes; the first of them says how many follow and bounds the next one,
and surrogates are no characters, so no bytes of a character are refused.
-/

namespace StatusPage.Text

/-! ## One character -/

theorem utf8Decode_single {b : UInt8} (single : b.toNat < 0x80) (rest : List UInt8) :
    utf8Decode (b :: rest) = some (Char.ofNat b.toNat) :: utf8Decode rest := by
  rw [utf8Decode, if_pos single]

theorem utf8Decode_lead {b : UInt8} {count low high acc : Nat} (long : 0x80 ≤ b.toNat)
    (lead : utf8Lead b.toNat = some (count, low, high, acc)) (rest : List UInt8) :
    utf8Decode (b :: rest) = (utf8Tail count low high acc rest).1.map Char.ofNat ::
      utf8Decode (utf8Tail count low high acc rest).2 := by
  rw [utf8Decode, if_neg (Nat.not_lt.2 long), lead]

theorem utf8Tail_cons {count low high acc : Nat} {b : UInt8}
    (bounds : low ≤ b.toNat ∧ b.toNat ≤ high) (rest : List UInt8) :
    utf8Tail (count + 1) low high acc (b :: rest) =
      utf8Tail count 0x80 0xBF (acc * 64 + (b.toNat - 0x80)) rest :=
  if_pos bounds

theorem toNat_byte {n : Nat} (bound : n < 256) : (UInt8.ofNat n).toNat = n :=
  UInt8.toNat_ofNat_of_lt bound

/-- A byte that continues a character adds six bits. -/
theorem utf8Tail_digit {count low high acc n : Nat} (bounds : low ≤ n + 128 ∧ n + 128 ≤ high)
    (digit : n < 64) (rest : List UInt8) :
    utf8Tail (count + 1) low high acc (UInt8.ofNat (n + 128) :: rest) =
      utf8Tail count 0x80 0xBF (acc * 64 + n) rest := by
  have byte := toNat_byte (n := n + 128) (by omega)
  rw [utf8Tail_cons (by rwa [byte]), byte, Nat.add_sub_cancel]

section

variable {n : Nat}

theorem utf8Decode_two (long : 0x7F < n) (short : n ≤ 0x7FF) (rest : List UInt8) :
    utf8Decode (UInt8.ofNat (n / 64 % 32 + 192) :: UInt8.ofNat (n % 64 + 128) :: rest) =
      some (Char.ofNat n) :: utf8Decode rest := by
  have first := toNat_byte (n := n / 64 % 32 + 192) (by omega)
  have lead : utf8Lead (n / 64 % 32 + 192) = some (1, 0x80, 0xBF, n / 64 % 32) := by
    rw [utf8Lead, if_pos (by omega), Nat.add_sub_cancel]
  have parts : n / 64 % 32 * 64 + n % 64 = n := by omega
  rw [← first] at lead
  rw [utf8Decode_lead (by omega) lead, utf8Tail_digit (by omega) (by omega), parts]
  rfl

/-- The first of three bytes: after the smallest one and the one before the surrogates the next byte
is bounded further. -/
theorem utf8Lead_three (long : 0x7FF < n) (short : n ≤ 0xFFFF)
    (scalar : n < 0xD800 ∨ 0xDFFF < n) :
    ∃ low high, utf8Lead (n / 4096 % 16 + 224) = some (2, low, high, n / 4096 % 16) ∧
      low ≤ n / 64 % 64 + 128 ∧ n / 64 % 64 + 128 ≤ high := by
  have whole : n / 4096 % 16 = n / 4096 := by omega
  rw [whole, utf8Lead, if_neg (by omega)]
  by_cases smallest : n / 4096 = 0
  · exact ⟨0xA0, 0xBF, by rw [smallest]; rfl, by omega, by omega⟩
  · rw [if_neg (by omega)]
    by_cases surrogates : n / 4096 = 13
    · exact ⟨0x80, 0x9F, by rw [surrogates]; rfl, by omega, by omega⟩
    · refine ⟨0x80, 0xBF, ?_, by omega, by omega⟩
      rw [if_neg (by omega), if_pos (by omega), Nat.add_sub_cancel]

theorem utf8Decode_three (long : 0x7FF < n) (short : n ≤ 0xFFFF)
    (scalar : n < 0xD800 ∨ 0xDFFF < n) (rest : List UInt8) :
    utf8Decode (UInt8.ofNat (n / 4096 % 16 + 224) :: UInt8.ofNat (n / 64 % 64 + 128) ::
        UInt8.ofNat (n % 64 + 128) :: rest) = some (Char.ofNat n) :: utf8Decode rest := by
  have first := toNat_byte (n := n / 4096 % 16 + 224) (by omega)
  obtain ⟨low, high, lead, bounds⟩ := utf8Lead_three long short scalar
  have parts : (n / 4096 % 16 * 64 + n / 64 % 64) * 64 + n % 64 = n := by omega
  rw [← first] at lead
  rw [utf8Decode_lead (by omega) lead, utf8Tail_digit bounds (by omega),
    utf8Tail_digit (by omega) (by omega), parts]
  rfl

/-- The first of four bytes: after the smallest one and the largest one the next byte is bounded
further. -/
theorem utf8Lead_four (long : 0xFFFF < n) (short : n < 0x110000) :
    ∃ low high, utf8Lead (n / 262144 % 8 + 240) = some (3, low, high, n / 262144 % 8) ∧
      low ≤ n / 4096 % 64 + 128 ∧ n / 4096 % 64 + 128 ≤ high := by
  have whole : n / 262144 % 8 = n / 262144 := by omega
  rw [whole]
  by_cases smallest : n / 262144 = 0
  · exact ⟨0x90, 0xBF, by rw [smallest]; rfl, by omega, by omega⟩
  · by_cases largest : n / 262144 = 4
    · exact ⟨0x80, 0x8F, by rw [largest]; rfl, by omega, by omega⟩
    · refine ⟨0x80, 0xBF, ?_, by omega, by omega⟩
      rw [utf8Lead, if_neg (by omega), if_neg (by omega), if_neg (by omega), if_neg (by omega),
        if_neg (by omega), if_pos (by omega), Nat.add_sub_cancel]

theorem utf8Decode_four (long : 0xFFFF < n) (short : n < 0x110000) (rest : List UInt8) :
    utf8Decode (UInt8.ofNat (n / 262144 % 8 + 240) :: UInt8.ofNat (n / 4096 % 64 + 128) ::
        UInt8.ofNat (n / 64 % 64 + 128) :: UInt8.ofNat (n % 64 + 128) :: rest) =
      some (Char.ofNat n) :: utf8Decode rest := by
  have first := toNat_byte (n := n / 262144 % 8 + 240) (by omega)
  obtain ⟨low, high, lead, bounds⟩ := utf8Lead_four long short
  have parts : ((n / 262144 % 8 * 64 + n / 4096 % 64) * 64 + n / 64 % 64) * 64 + n % 64 = n := by
    omega
  rw [← first] at lead
  rw [utf8Decode_lead (by omega) lead, utf8Tail_digit bounds (by omega),
    utf8Tail_digit (by omega) (by omega), utf8Tail_digit (by omega) (by omega), parts]
  rfl

end

/-- The bytes of a character are read as the character. -/
theorem utf8Decode_utf8EncodeChar (c : Char) (rest : List UInt8) :
    utf8Decode (String.utf8EncodeChar c ++ rest) = some c :: utf8Decode rest := by
  have scalar : c.val.toNat < 0xD800 ∨ (0xDFFF < c.val.toNat ∧ c.val.toNat < 0x110000) := c.valid
  have number : some c = some (Char.ofNat c.val.toNat) := congrArg some (Char.ofNat_toNat c).symm
  rw [number, String.utf8EncodeChar]
  split
  · next one =>
    have byte := toNat_byte (n := c.val.toNat) (by omega)
    rw [List.singleton_append, utf8Decode_single (by omega), byte]
  · split
    · next two => exact utf8Decode_two (by omega) two rest
    · split
      · next three => exact utf8Decode_three (by omega) three (by omega) rest
      · exact utf8Decode_four (by omega) (by omega) rest

/-! ## Texts -/

/-- What is sent as UTF-8 is read as it was. -/
theorem utf8Decode_utf8Encode (cs : List Char) : utf8Decode (utf8Encode cs) = cs.map some := by
  induction cs with
  | nil => simp [utf8Encode, utf8Decode]
  | cons c rest ih =>
    rw [utf8Encode] at ih
    rw [utf8Encode, List.flatMap_cons, utf8Decode_utf8EncodeChar, ih, List.map_cons]

/-- A text that has something for each element of a list is no shorter than the list. -/
theorem length_le_length_flatMap {α β : Type} {f : α → List β} (some_each : ∀ a, f a ≠ [])
    (l : List α) : l.length ≤ (l.flatMap f).length := by
  induction l with
  | nil => exact Nat.zero_le _
  | cons a rest ih =>
    rw [List.flatMap_cons, List.length_append, List.length_cons]
    have first := List.length_pos_iff.2 (some_each a)
    omega

/-- A text that has little for each element of a list is short. -/
theorem length_flatMap_le {α β : Type} {f : α → List β} {most : Nat}
    (each : ∀ a, (f a).length ≤ most) (l : List α) : (l.flatMap f).length ≤ most * l.length := by
  induction l with
  | nil => exact Nat.le_refl 0
  | cons a rest ih =>
    rw [List.flatMap_cons, List.length_append, List.length_cons, Nat.mul_succ, Nat.add_comm]
    exact Nat.add_le_add ih (each a)

/-- A text takes no fewer bytes than it has characters. -/
theorem length_le_utf8Encode (cs : List Char) : cs.length ≤ (utf8Encode cs).length :=
  length_le_length_flatMap (fun c => List.length_pos_iff.1
    (String.length_utf8EncodeChar c ▸ c.utf8Size_pos)) cs

/-- No character takes more than four bytes. -/
theorem length_utf8Encode_le (cs : List Char) : (utf8Encode cs).length ≤ 4 * cs.length :=
  length_flatMap_le (fun c => String.length_utf8EncodeChar c ▸ c.utf8Size_le_four) cs

end StatusPage.Text
