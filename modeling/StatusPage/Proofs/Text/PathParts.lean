import Mathlib
import StatusPage.Api.Route
import StatusPage.Http.Target
import StatusPage.Proofs.Text.Utf8
import StatusPage.Proofs.UuidText

/-!
# Parts of paths

A part of a path stands for a text, and every text has a part that stands for it: `percentEncode`
writes what cannot stand in a path byte by byte, each byte after a percent sign
(`segmentText?_percentEncode`). Numbers and identifiers stand in a path as they are written. In the
other direction no part stands for a text with more characters than the part has bytes
(`length_le_of_segmentText?`), and no part has more bytes than its path.
-/

namespace StatusPage

namespace Text

open Http Api

/-! ## Characters -/

/-- Characters that may stand in a part of a path. -/
def isPartChar (c : Char) : Bool :=
  Target.isPathChar c && c ≠ '/'

/-- Characters that stand for themselves in a part of a path. -/
def isPlainChar (c : Char) : Bool :=
  isPartChar c && c ≠ '%'

theorem isPartChar_of_isPlainChar {c : Char} (plain : isPlainChar c = true) :
    isPartChar c = true :=
  (Bool.and_eq_true_iff.1 plain).1

theorem not_mem_of_isPlainChar {cs : List Char} (plain : ∀ c ∈ cs, isPlainChar c = true) :
    '%' ∉ cs :=
  fun member => absurd (plain '%' member) (by decide)

theorem not_mem_of_isPartChar {cs : List Char} (part : ∀ c ∈ cs, isPartChar c = true) :
    '/' ∉ cs :=
  fun member => absurd (part '/' member) (by decide)

/-- Digits stand in a path as they are. -/
theorem isPlainChar_of_mem_fixedDigits {base width n : Nat} (base_pos : 0 < base)
    (base_le : base ≤ 16) {c : Char} (member : c ∈ fixedDigits base width n) :
    isPlainChar c = true := by
  obtain ⟨d, bound, rfl⟩ := exists_digit_of_fixedDigits base_pos member
  have table : ∀ d : Fin 16, isPlainChar (Nat.digitChar d.val) = true := by decide
  exact table ⟨d, bound.trans_le base_le⟩

theorem isPlainChar_of_mem_natural {n : Nat} {c : Char} (member : c ∈ (natural n).toList) :
    isPlainChar c = true := by
  rw [natural, String.toList_ofList, toDigits_eq_fixedDigits] at member
  exact isPlainChar_of_mem_fixedDigits (by decide) (by decide) member

end Text

open Text

theorem Uuid.isPlainChar_of_mem_text {id : Uuid} {c : Char} (member : c ∈ id.text.toList) :
    isPlainChar c = true := by
  obtain ⟨a, b, d, e, f, -, digits, written⟩ := id.exists_groups
  rw [Uuid.text, String.toList_ofList, written] at member
  have kinds : c = '-' ∨ c ∈ fixedDigits 16 32 id.bits.toNat := by
    rw [digits]
    simp only [List.mem_append, List.mem_cons] at member ⊢
    rcases member with part | part | part | part | part | part | part | part | part <;> simp [part]
  rcases kinds with rfl | digit
  · decide
  · exact isPlainChar_of_mem_fixedDigits (by decide) (by decide) digit

namespace Text

open Api

/-! ## Writing a text as a part -/

/-- A byte after a percent sign, in two hexadecimal digits. -/
def percentByte (b : UInt8) : List Char :=
  '%' :: fixedDigits 16 2 b.toNat

/-- A text as a part of a path: what does not stand for itself is written byte by byte. -/
def percentEncode (cs : List Char) : List Char :=
  cs.flatMap fun c =>
    if isPlainChar c then [c] else (String.utf8EncodeChar c).flatMap percentByte

theorem percentDecode_percentByte (b : UInt8) (rest : List Char) :
    percentDecode (percentByte b ++ rest) = b :: percentDecode rest := by
  have value := ofDigits_fixedDigits (show 0 < 16 by decide) (by decide) 2 b.toNat
  rw [Nat.pow_eq, Nat.mod_eq_of_lt b.toNat_lt] at value
  obtain ⟨high, low, digits⟩ := List.length_eq_two.1 (length_fixedDigits 16 2 b.toNat)
  rw [percentByte, digits]
  rw [digits] at value
  simp only [List.cons_append, List.nil_append, percentDecode, value, UInt8.ofNat_toNat]

theorem percentDecode_bytes (bytes : List UInt8) (rest : List Char) :
    percentDecode (bytes.flatMap percentByte ++ rest) = bytes ++ percentDecode rest := by
  induction bytes with
  | nil => rfl
  | cons b bytes ih =>
    rw [List.flatMap_cons, List.append_assoc, percentDecode_percentByte, ih, List.cons_append]

theorem percentDecode_cons {c : Char} (other : c ≠ '%') (rest : List Char) :
    percentDecode (c :: rest) = String.utf8EncodeChar c ++ percentDecode rest := by
  rw [percentDecode]
  rintro high low later same
  exact absurd same other

theorem percentDecode_percentEncode (cs : List Char) :
    percentDecode (percentEncode cs) = utf8Encode cs := by
  induction cs with
  | nil => rfl
  | cons c cs ih =>
    rw [percentEncode, List.flatMap_cons, ← percentEncode, utf8Encode, List.flatMap_cons,
      ← utf8Encode]
    split
    · next plain =>
      have other : c ≠ '%' := by
        rintro rfl
        exact absurd plain (by decide)
      rw [List.singleton_append, percentDecode_cons other, ih]
    · rw [percentDecode_bytes, ih]

theorem isPartChar_of_mem_percentEncode {cs : List Char} {c : Char}
    (member : c ∈ percentEncode cs) : isPartChar c = true := by
  obtain ⟨own, -, written⟩ := List.mem_flatMap.1 member
  split at written
  · next plain =>
    obtain rfl := List.mem_singleton.1 written
    exact isPartChar_of_isPlainChar plain
  · obtain ⟨b, -, byte⟩ := List.mem_flatMap.1 written
    rcases List.mem_cons.1 byte with rfl | digit
    · decide
    · exact isPartChar_of_isPlainChar
        (isPlainChar_of_mem_fixedDigits (by decide) (by decide) digit)

theorem utf8Strict?_utf8Encode (cs : List Char) : utf8Strict? (utf8Encode cs) = some cs := by
  rw [utf8Strict?, utf8Decode_utf8Encode]
  induction cs with
  | nil => rfl
  | cons c cs ih =>
    rw [List.map_cons, List.mapM_cons, ih]
    rfl

theorem segmentText?_percentEncode (text : String) :
    segmentText? (String.ofList (percentEncode text.toList)) = some text := by
  rw [segmentText?, String.toList_ofList, percentDecode_percentEncode, utf8Strict?_utf8Encode,
    Option.map_some, String.ofList_toList]

/-- A part of plain characters stands for itself. -/
theorem segmentText?_of_plain {part : String} (plain : ∀ c ∈ part.toList, isPlainChar c = true) :
    segmentText? part = some part := by
  rw [segmentText?, percentDecode_eq_utf8Encode (not_mem_of_isPlainChar plain),
    utf8Strict?_utf8Encode, Option.map_some, String.ofList_toList]

/-- Only the empty text is written as nothing. -/
theorem percentEncode_ne_nil {text : String} (visible : text ≠ "") :
    percentEncode text.toList ≠ [] := by
  intro nothing
  have stands := segmentText?_percentEncode text
  rw [nothing] at stands
  exact visible (Option.some.inj (stands.symm.trans (by decide +kernel)))

/-! ## Sizes -/

theorem length_utf8Decode_le (bytes : List UInt8) : (utf8Decode bytes).length ≤ bytes.length := by
  fun_induction utf8Decode bytes with
  | case1 => exact Nat.le_refl 0
  | case2 b bytes ascii ih => exact Nat.succ_le_succ ih
  | case3 b bytes other unknown ih => exact Nat.succ_le_succ ih
  | case4 b bytes other count low high acc lead ih =>
    exact Nat.succ_le_succ (ih.trans (length_utf8Tail_le count low high acc bytes))

theorem length_of_utf8Strict? {bytes : List UInt8} {cs : List Char}
    (read : utf8Strict? bytes = some cs) : cs.length ≤ bytes.length := by
  have all : (utf8Decode bytes).length = cs.length := by
    rw [utf8Strict?] at read
    generalize utf8Decode bytes = decoded at read
    induction decoded generalizing cs with
    | nil =>
      cases read
      rfl
    | cons c rest ih =>
      obtain ⟨first, -, later, rest_read, same⟩ := by
        simpa only [List.mapM_cons, Option.bind_eq_bind, Option.bind_eq_some_iff] using read
      cases same
      exact congrArg (· + 1) (ih rest_read)
  exact all ▸ length_utf8Decode_le bytes

/-- A part stands for no more bytes than it has. -/
theorem length_percentDecode_le (cs : List Char) : (percentDecode cs).length ≤ byteLength cs := by
  fun_induction percentDecode cs with
  | case1 => exact Nat.le_refl 0
  | case2 high low rest value shown ih =>
    have sign : Char.utf8Size '%' = 1 := by decide
    simp only [byteLength, List.length_cons, sign]
    omega
  | case3 high low rest unknown ih =>
    rw [List.length_append, String.length_utf8EncodeChar, byteLength]
    exact Nat.add_le_add_left ih _
  | case4 c rest other ih =>
    rw [List.length_append, String.length_utf8EncodeChar, byteLength]
    exact Nat.add_le_add_left ih _

theorem length_le_of_segmentText? {part text : String} (stands : segmentText? part = some text) :
    text.toList.length ≤ byteLength part.toList := by
  obtain ⟨cs, read, rfl⟩ := Option.map_eq_some_iff.1 stands
  rw [String.toList_ofList]
  exact (length_of_utf8Strict? read).trans (length_percentDecode_le part.toList)

/-- A piece of a text is in the text. -/
theorem sublist_of_mem_pieces {separator : Char} {cs piece : List Char}
    (member : piece ∈ pieces separator cs) : piece.Sublist cs := by
  induction cs generalizing piece with
  | nil =>
    obtain rfl : piece = [] := by simpa [pieces] using member
    exact .slnil
  | cons c cs ih =>
    simp only [pieces] at member
    split at member
    · rcases List.mem_cons.1 member with rfl | later
      · exact List.nil_sublist _
      · exact (ih later).cons c
    · cases split : pieces separator cs with
      | nil => exact absurd split (pieces_ne_nil separator cs)
      | cons first rest =>
        rw [split] at member ih
        rcases List.mem_cons.1 member with rfl | later
        · exact (ih List.mem_cons_self).cons_cons c
        · exact (ih (List.mem_cons_of_mem _ later)).cons c

/-- No character takes more than four bytes. -/
theorem byteLength_le (cs : List Char) : byteLength cs ≤ 4 * cs.length := by
  induction cs with
  | nil => exact Nat.le_refl 0
  | cons c cs ih =>
    have own := c.utf8Size_le_four
    rw [byteLength, List.length_cons]
    omega

/-- What is in a joined text is in one of the texts, or joins them. -/
theorem mem_intercalate {separator c : Char} {segments : List (List Char)}
    (member : c ∈ [separator].intercalate segments) :
    c = separator ∨ ∃ segment ∈ segments, c ∈ segment := by
  induction segments with
  | nil => cases member
  | cons first rest ih =>
    cases rest with
    | nil =>
      have own : c ∈ first := by simpa [List.intercalate] using member
      exact .inr ⟨first, List.mem_cons_self, own⟩
    | cons next rest =>
      have places : c ∈ first ∨ c = separator ∨ c ∈ [separator].intercalate (next :: rest) := by
        simpa [List.intercalate] using member
      rcases places with own | joins | later
      · exact .inr ⟨first, List.mem_cons_self, own⟩
      · exact .inl joins
      · rcases ih later with joins | ⟨segment, listed, there⟩
        · exact .inl joins
        · exact .inr ⟨segment, List.mem_cons_of_mem _ listed, there⟩

end Text

end StatusPage
