import StatusPage.Binary
import StatusPage.Decimal
import StatusPage.Json

/-!
Reading JSON texts.

The text is a list of symbols: its characters, and `none` where bytes are no character. `readValue`
reads the value at the front and answers with what is left. Where the text stops being JSON the
reading is `broken` and nothing is left, so every value around it ends there too.

A string is first read for its form and then for its meaning: escapes for halves of a surrogate
pair that are not together, or bytes that are no character, leave it unreadable. A number beyond
the range of binary floating point is unreadable too.
-/

namespace StatusPage.Json

open Text Binary.Format

/-- A character of a text, or bytes that are none. -/
abbrev Symbol := Option Char

/-- Whether a symbol is white space between tokens. -/
def isGap (s : Symbol) : Bool :=
  s == some ' ' || s == some '\n' || s == some '\t' || s == some '\r'

/-- The text after the white space it starts with. -/
def skipGaps (text : List Symbol) : List Symbol :=
  text.dropWhile isGap

/-! ## Strings -/

/-- One part of a written string. -/
inductive Piece where
  | plain (c : Char)
  /-- A 16-bit unit given by its number. -/
  | unit (value : Nat)
  /-- Bytes that are no character. -/
  | foreign
  deriving DecidableEq

/-- The character that a letter after a backslash stands for. -/
def letterEscape? (c : Char) : Option Char :=
  match c with
  | '"' => some '"'
  | '\\' => some '\\'
  | '/' => some '/'
  | 'b' => some '\x08'
  | 'f' => some '\x0c'
  | 'n' => some '\n'
  | 'r' => some '\r'
  | 't' => some '\t'
  | _ => none

/-- The value of four hexadecimal digits. -/
def unitOf? (a b c d : Symbol) : Option Nat :=
  match a, b, c, d with
  | some a, some b, some c, some d => ofDigits 16 [a, b, c, d]
  | _, _, _, _ => none

/-- The parts of a string up to the quote that ends it, and the text after that quote. -/
def pieces? : List Symbol → Option (List Piece × List Symbol)
  | [] => none
  | some '"' :: rest => some ([], rest)
  | some '\\' :: some 'u' :: a :: b :: c :: d :: rest =>
    match unitOf? a b c d with
    | some unit => (pieces? rest).map fun (parts, rest) => (.unit unit :: parts, rest)
    | none => none
  | some '\\' :: some letter :: rest =>
    match letterEscape? letter with
    | some c => (pieces? rest).map fun (parts, rest) => (.plain c :: parts, rest)
    | none => none
  | some '\\' :: _ => none
  | some c :: rest =>
    if c.toNat < 0x20 then none
    else (pieces? rest).map fun (parts, rest) => (.plain c :: parts, rest)
  | none :: rest => (pieces? rest).map fun (parts, rest) => (.foreign :: parts, rest)

/-- The text that the parts of a string make up. -/
def assemble? : List Piece → Option (List Char)
  | [] => some []
  | .plain c :: rest => (assemble? rest).map (c :: ·)
  | .foreign :: _ => none
  | .unit high :: .unit low :: rest =>
    if 0xD800 ≤ high ∧ high < 0xDC00 then
      if 0xDC00 ≤ low ∧ low < 0xE000 then
        (assemble? rest).map
          (Char.ofNat (0x10000 + (high - 0xD800) * 0x400 + (low - 0xDC00)) :: ·)
      else none
    else if 0xDC00 ≤ high ∧ high < 0xE000 then none
    else (assemble? (.unit low :: rest)).map (Char.ofNat high :: ·)
  | .unit single :: rest =>
    if 0xD800 ≤ single ∧ single < 0xE000 then none
    else (assemble? rest).map (Char.ofNat single :: ·)

/-- The text that the parts of a string make up. -/
def stringOf? (parts : List Piece) : Option String :=
  (assemble? parts).map String.ofList

/-! ## Numbers -/

/-- The digits at the front of a text, and the text after them. -/
def takeDigits : List Symbol → List Char × List Symbol
  | some c :: rest =>
    if '0' ≤ c ∧ c ≤ '9' then (c :: (takeDigits rest).1, (takeDigits rest).2)
    else ([], some c :: rest)
  | text => ([], text)

/-- The fraction of a number, if it has one. -/
def takeFraction? : List Symbol → Option (Option (List Char) × List Symbol)
  | some '.' :: rest =>
    match takeDigits rest with
    | ([], _) => none
    | (digits, rest) => some (some digits, rest)
  | text => some (none, text)

/-- The exponent of a number, if it has one. -/
def takeExponent? : List Symbol → Option (Option Int × List Symbol)
  | some mark :: rest =>
    if mark = 'e' ∨ mark = 'E' then
      let (negative, rest) := match rest with
        | some '-' :: rest => (true, rest)
        | some '+' :: rest => (false, rest)
        | rest => (false, rest)
      match takeDigits rest with
      | ([], _) => none
      | (digits, rest) =>
        let size : Nat := (ofDigits 10 digits).getD 0
        some (some (if negative then -(size : Int) else size), rest)
    else some (none, some mark :: rest)
  | [] => some (none, [])
  | none :: rest => some (none, none :: rest)

/-- The digits of a number that count: as many as give a significand of 64 bits. -/
def decimalOf (whole places : List Char) (exponent : Int) : Decimal :=
  Decimal.ofDigits (fun acc digit => acc * 10 + digit < 1 <<< 64) whole places exponent

/-- The largest power of ten that is a number of 64 bits. -/
def largestPower : Nat := 308

/-- Whether a number is beyond the range of binary floating point. Significand and power of ten are
rounded before they are multiplied, so a number just below the end of the range can be beyond. -/
def exceedsRange (d : Decimal) : Bool :=
  d.significand ≠ 0 && 0 ≤ d.exponent &&
    (largestPower < d.exponent ||
      (binary64.mul (binary64.ofQuotient d.significand 1)
        (binary64.ofQuotient (Nat.pow 10 d.exponent.toNat) 1)).overflows)

/-- What a written number stands for. -/
def numberOf (negative : Bool) (whole : List Char) (fraction : Option (List Char))
    (exponent : Option Int) : Reading :=
  let places := fraction.getD []
  let digits := (ofDigits 10 (whole ++ places)).getD 0
  if exceedsRange (decimalOf whole places (exponent.getD 0)) then .unreadable
  else if fraction.isSome || exponent.isSome || (negative && digits == 0) then .fractional
  else .int (if negative then -(digits : Int) else digits)

/-- The number at the front of a text, after its sign. -/
def readNumber (negative : Bool) (text : List Symbol) : Reading × List Symbol :=
  match takeDigits text with
  | ([], _) => (.broken, [])
  | (whole, rest) =>
    if 1 < whole.length ∧ whole.head? = some '0' then (.broken, [])
    else match takeFraction? rest with
      | none => (.broken, [])
      | some (fraction, rest) =>
        match takeExponent? rest with
        | none => (.broken, [])
        | some (exponent, rest) => (numberOf negative whole fraction exponent, rest)

/-! ## Values -/

/-- The reading of one value if a text starts with the given word. -/
def readWord (word : List Char) (value : Reading) (text : List Symbol) : Reading × List Symbol :=
  if (text.take word.length) = word.map some then (value, text.drop word.length)
  else (.broken, [])

mutual

/-- The value at the front of a text, and the text after it. The first argument bounds the depth
of the reading; the length of the text is enough. -/
def readValue : Nat → List Symbol → Reading × List Symbol
  | 0, _ => (.broken, [])
  | fuel + 1, text =>
    match skipGaps text with
    | some 'n' :: rest => readWord ['u', 'l', 'l'] .null rest
    | some 't' :: rest => readWord ['r', 'u', 'e'] (.bool true) rest
    | some 'f' :: rest => readWord ['a', 'l', 's', 'e'] (.bool false) rest
    | some '"' :: rest =>
      match pieces? rest with
      | none => (.broken, [])
      | some (parts, rest) =>
        ((stringOf? parts).elim .unreadable .string, rest)
    | some '[' :: rest =>
      match skipGaps rest with
      | some ']' :: rest => (.array [], rest)
      | rest =>
        let (items, rest) := readItems fuel rest
        (.array items, rest)
    | some '{' :: rest =>
      match skipGaps rest with
      | some '}' :: rest => (.object [], rest)
      | rest =>
        let (members, rest) := readMembers fuel rest
        (.object members, rest)
    | some '-' :: rest => readNumber true rest
    | some c :: rest =>
      if '0' ≤ c ∧ c ≤ '9' then readNumber false (some c :: rest) else (.broken, [])
    | _ => (.broken, [])
termination_by structural fuel => fuel

/-- The elements of an array from one of them to its end. -/
def readItems : Nat → List Symbol → List Reading × List Symbol
  | 0, _ => ([.broken], [])
  | fuel + 1, text =>
    let (item, rest) := readValue fuel text
    match skipGaps rest with
    | some ',' :: rest =>
      let (items, rest) := readItems fuel rest
      (item :: items, rest)
    | some ']' :: rest => ([item], rest)
    | _ => ([item, .broken], [])
termination_by structural fuel => fuel

/-- The members of an object from one of them to its end. -/
def readMembers : Nat → List Symbol → List (Option String × Reading) × List Symbol
  | 0, _ => ([(none, .broken)], [])
  | fuel + 1, text =>
    match skipGaps text with
    | some '"' :: rest =>
      match pieces? rest with
      | none => ([(none, .broken)], [])
      | some (parts, rest) =>
        match skipGaps rest with
        | some ':' :: rest =>
          let (value, rest) := readValue fuel rest
          match skipGaps rest with
          | some ',' :: rest =>
            let (members, rest) := readMembers fuel rest
            ((stringOf? parts, value) :: members, rest)
          | some '}' :: rest => ([(stringOf? parts, value)], rest)
          | _ => ([(stringOf? parts, value), (none, .broken)], [])
        | _ => ([(stringOf? parts, .broken)], [])
    | _ => ([(none, .broken)], [])
termination_by structural fuel => fuel

end

/-- A text as a whole: its first value, and whether anything but white space comes after it. -/
structure Document where
  value : Reading
  trailing : Bool

/-- Reads a text as a whole. -/
def readSymbols (text : List Symbol) : Document :=
  let (value, rest) := readValue (text.length + 1) text
  ⟨value, !(skipGaps rest).isEmpty⟩

/-- Reads a text as a whole. -/
def read (text : String) : Document :=
  readSymbols (text.toList.map some)

end StatusPage.Json
