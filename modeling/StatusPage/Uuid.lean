import StatusPage.Text.Digits

/-!
Identifiers of 128 bits.

An identifier is written as 32 lower-case hexadecimal digits in five groups. It is read from the
bare digits, from the grouped form, and from the grouped form in braces or after `urn:uuid:`, in
either case. `Uuid.flaw` names the first thing that is wrong with a text that is none of these.
-/

namespace StatusPage

open Text

/-- An identifier of 128 bits. -/
structure Uuid where
  bits : BitVec 128
  deriving DecidableEq, Repr, Inhabited

/-- Why a text is not an identifier. -/
inductive Uuid.Flaw where
  /-- A character that is neither a digit nor a hyphen, and where it stands. -/
  | character (found : Char) (index : Nat)
  /-- Too many bytes for an identifier, or bare digits that are not 32. -/
  | length (found : Nat)
  /-- Digits in groups, but not in five of them. -/
  | groupCount (found : Nat)
  /-- Five groups, the named one too short or too long. -/
  | groupLength (group found : Nat)
  deriving DecidableEq, Repr

namespace Uuid

/-- The sizes of the five groups. -/
def groupSizes : List Nat := [8, 4, 4, 4, 12]

/-- The positions at which the five groups start. -/
def groupStarts : List Nat := [0, 9, 14, 19, 24]

def Flaw.message : Flaw → String
  | .character found index =>
    "invalid character: found `" ++ String.singleton found ++ "` at " ++ natural index
  | .length found => "invalid length: found " ++ natural found
  | .groupCount found => "invalid group count: expected 5, found " ++ natural found
  | .groupLength group found =>
    "invalid group length in group " ++ natural group ++ ": expected " ++
      natural (groupSizes.getD group 0) ++ ", found " ++ natural found

/-- The identifier with the given number. -/
def ofNat (n : Nat) : Uuid :=
  ⟨BitVec.ofNat 128 n⟩

/-! ## Writing -/

/-- The grouped form. -/
def toList (id : Uuid) : List Char :=
  let digits := fixedDigits 16 32 id.bits.toNat
  digits.take 8 ++ '-' :: (digits.drop 8).take 4 ++ '-' :: (digits.drop 12).take 4 ++
    '-' :: (digits.drop 16).take 4 ++ '-' :: digits.drop 20

/-- The grouped form. -/
def text (id : Uuid) : String :=
  String.ofList id.toList

/-! ## Reading -/

/-- Reads 32 bare digits. -/
def ofBare? (cs : List Char) : Option Uuid :=
  if cs.length = 32 then (ofDigits 16 cs).map ofNat else none

/-- Reads five groups of digits with hyphens between them. -/
def ofGrouped? (cs : List Char) : Option Uuid :=
  if cs.length = 36 ∧ cs[8]? = some '-' ∧ cs[13]? = some '-' ∧ cs[18]? = some '-' ∧
      cs[23]? = some '-' then
    ofBare? (cs.take 8 ++ (cs.drop 9).take 4 ++ (cs.drop 14).take 4 ++ (cs.drop 19).take 4 ++
      cs.drop 24)
  else none

/-- The name space that an identifier may be written in. -/
def urn : List Char := ['u', 'r', 'n', ':', 'u', 'u', 'i', 'd', ':']

/-- What stands inside the braces or after the name space, how far in it starts, and whether it
stands alone. -/
def unwrap (cs : List Char) : List Char × Nat × Bool :=
  if (cs.take 9).map Char.toLower = urn then (cs.drop 9, 9, false)
  else if cs.head? = some '{' ∧ 2 ≤ cs.length ∧ cs.getLast? = some '}' then
    (cs.tail.dropLast, 1, false)
  else (cs, 0, true)

/-- Reads an identifier in any of its four forms. -/
def ofList? (cs : List Char) : Option Uuid :=
  match unwrap cs with
  | (body, _, true) => ofBare? body <|> ofGrouped? body
  | (body, _, false) => ofGrouped? body

/-- The first group that has not its size, given where the hyphens stand. -/
def misfit : List Nat → List Nat → Nat → Option Flaw
  | hyphen :: hyphens, start :: next :: starts, group =>
    if hyphen + 1 = next then misfit hyphens (next :: starts) (group + 1)
    else some (.groupLength group (hyphen - start))
  | _, _, _ => none

/-- The bytes of the grouped form. -/
def groupedSize : Nat := 36

/-- The bytes of the longest form. -/
def longest : Nat := urn.length + groupedSize

/-- What is looked at for a flaw, the index of its first character, and whether it may have been
meant for bare digits. What has the size of the grouped form, alone or inside the braces or after
the name space, was meant for one, and its characters are counted from its own start. -/
def suspect (cs : List Char) : List Char × Nat × Bool :=
  if byteLength cs = groupedSize then (cs, 0, false)
  else
    let (body, offset, plain) := unwrap cs
    if byteLength body = groupedSize then (body, 0, false) else (body, offset, plain)

/-- The first thing that is wrong with a text that is not an identifier. -/
def flaw (cs : List Char) : Flaw :=
  if longest < byteLength cs then .length (byteLength cs)
  else
    let (body, offset, plain) := suspect cs
    match body.zipIdx.find? fun (c, _) => c ≠ '-' && (digitValue? 16 c).isNone with
    | some (c, index) => .character c (index + offset)
    | none =>
      let hyphens := (body.zipIdx.filter fun (c, _) => c = '-').map (·.2)
      if hyphens = [] ∧ plain then .length cs.length
      else if hyphens.length ≠ 4 then .groupCount (hyphens.length + 1)
      else (misfit hyphens groupStarts 0).getD (.groupLength 4 (cs.length - 24))

/-- Reads an identifier in any of its four forms, or says what is wrong with the text. -/
def parse (s : String) : Except Flaw Uuid :=
  match ofList? s.toList with
  | some id => .ok id
  | none => .error (flaw s.toList)

/-! ## Drawing -/

/-- The identifier drawn from a random number: version 4 and the standard variant overwrite six of
its bits. -/
def ofRandom (r : BitVec 128) : Uuid :=
  ⟨(r &&& ~~~(0xF000C000000000000000#128)) ||| 0x40008000000000000000#128⟩

end Uuid

end StatusPage
