/-!
Bytes as text.

`utf8Decode` reads bytes as UTF-8 and marks each longest run that starts no character, or breaks
one off, by `none`. A strict reading refuses such a mark, a lenient one shows the replacement
character for it.
-/

namespace StatusPage.Text

/-- For the first byte of a longer sequence: the bytes that follow, the bounds of the next one and
the bits that this one gives. -/
def utf8Lead (b : Nat) : Option (Nat × Nat × Nat × Nat) :=
  if 0xC2 ≤ b ∧ b ≤ 0xDF then some (1, 0x80, 0xBF, b - 0xC0)
  else if b = 0xE0 then some (2, 0xA0, 0xBF, 0)
  else if b = 0xED then some (2, 0x80, 0x9F, 0xD)
  else if 0xE1 ≤ b ∧ b ≤ 0xEF then some (2, 0x80, 0xBF, b - 0xE0)
  else if b = 0xF0 then some (3, 0x90, 0xBF, 0)
  else if 0xF1 ≤ b ∧ b ≤ 0xF3 then some (3, 0x80, 0xBF, b - 0xF0)
  else if b = 0xF4 then some (3, 0x80, 0x8F, 4)
  else none

/-- The code point that the bytes after a first one complete, and the bytes it leaves. -/
def utf8Tail : Nat → Nat → Nat → Nat → List UInt8 → Option Nat × List UInt8
  | 0, _, _, acc, bytes => (some acc, bytes)
  | _ + 1, _, _, _, [] => (none, [])
  | count + 1, low, high, acc, b :: bytes =>
    if low ≤ b.toNat ∧ b.toNat ≤ high then
      utf8Tail count 0x80 0xBF (acc * 64 + (b.toNat - 0x80)) bytes
    else (none, b :: bytes)

theorem length_utf8Tail_le (count low high acc : Nat) (bytes : List UInt8) :
    (utf8Tail count low high acc bytes).2.length ≤ bytes.length := by
  induction bytes generalizing count low high acc with
  | nil => cases count <;> simp [utf8Tail]
  | cons b bytes ih =>
    cases count with
    | zero => simp [utf8Tail]
    | succ count =>
      simp only [utf8Tail]
      split
      · exact Nat.le_trans (ih ..) (by simp)
      · simp

/-- The characters of a run of bytes, with `none` for each run that is no character. -/
def utf8Decode : List UInt8 → List (Option Char)
  | [] => []
  | b :: bytes =>
    if b.toNat < 0x80 then some (Char.ofNat b.toNat) :: utf8Decode bytes
    else match utf8Lead b.toNat with
      | none => none :: utf8Decode bytes
      | some (count, low, high, acc) =>
        ((utf8Tail count low high acc bytes).1.map Char.ofNat) ::
          utf8Decode (utf8Tail count low high acc bytes).2
  termination_by bytes => bytes.length
  decreasing_by
    · simp
    · simp
    · exact Nat.lt_of_le_of_lt (length_utf8Tail_le ..) (by simp)

/-- The bytes of a text. -/
def utf8Encode (cs : List Char) : List UInt8 :=
  cs.flatMap String.utf8EncodeChar

/-- The text of the bytes, if they are UTF-8 throughout. -/
def utf8Strict? (bytes : List UInt8) : Option (List Char) :=
  (utf8Decode bytes).mapM id

/-- The text of the bytes, with the replacement character for what is not UTF-8. -/
def utf8Lenient (bytes : List UInt8) : List Char :=
  (utf8Decode bytes).map fun c => c.getD '\uFFFD'

end StatusPage.Text
