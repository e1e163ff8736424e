import StatusPage.Text.Digits

/-!
Request targets.

A target is a path and a query, both still percent-encoded. It is written as a path that starts with
a slash, or as a whole address, of which only what follows the authority counts. An authority alone
is a target too, with an empty path. What follows a number sign is dropped unread.
-/

namespace StatusPage.Http

open Text

namespace Target

/-- The bytes that a target can have at most. -/
def longest : Nat := 65534

/-- The shortest text for a path and a query. -/
def shortest (path query : List Char) : List Char :=
  if query.isEmpty then path else path ++ '?' :: query

end Target

/-- A path and a query, both still percent-encoded, for which no target is too long. -/
structure Target where
  path : List Char
  query : List Char
  fits : byteLength (Target.shortest path query) ≤ Target.longest
  deriving DecidableEq

namespace Target

/-- The characters that a scheme can have at most. -/
def longestScheme : Nat := 64

/-- Characters that are no blank and no control of ASCII. -/
def isGraphic (c : Char) : Bool :=
  0x20 < c.toNat && c.toNat ≠ 0x7F

/-- Characters that may stand in a path. -/
def isPathChar (c : Char) : Bool :=
  isGraphic c && !(['#', '<', '>', '?', '\x60'].contains c)

/-- Characters that may stand in a query. -/
def isQueryChar (c : Char) : Bool :=
  isGraphic c && !(['"', '#', '<', '>'].contains c)

/-- Characters that may stand in a scheme. -/
def isSchemeChar (c : Char) : Bool :=
  c.isAlphanum || ['+', '-', '.', '~'].contains c

/-- Characters that may stand in an authority, those with a meaning of their own apart. -/
def isAuthorityChar (c : Char) : Bool :=
  c.isAlphanum ||
    ['-', '.', '_', '~', '!', '$', '&', '\'', '(', ')', '*', '+', ',', ';', '='].contains c

/-- What has been seen of an authority. -/
structure Seen where
  /-- Whether a bracket was opened. -/
  opened : Bool
  /-- Whether a bracket was closed. -/
  closed : Bool
  /-- Whether there was a percent sign since the last bracket or user. -/
  percent : Bool
  /-- The colons since the last bracket or user. -/
  colons : Nat

/-- Nothing has been seen. -/
def Seen.nothing : Seen := ⟨false, false, false, 0⟩

/-- Whether the rest of an authority is in order: one pair of brackets at most, and after the user
and the brackets one colon and no percent sign. -/
def authorityFrom : Seen → List Char → Bool
  | seen, [] => seen.opened == seen.closed && !seen.percent && seen.colons ≤ 1
  | seen, '[' :: rest =>
    !seen.percent && !seen.opened && authorityFrom { seen with opened := true } rest
  | seen, ']' :: rest =>
    seen.opened && !seen.closed && authorityFrom ⟨seen.opened, true, false, 0⟩ rest
  | seen, '@' :: rest =>
    !rest.isEmpty && authorityFrom ⟨seen.opened, seen.closed, false, 0⟩ rest
  | seen, ':' :: rest =>
    seen.colons < 8 && authorityFrom { seen with colons := seen.colons + 1 } rest
  | seen, '%' :: rest => authorityFrom { seen with percent := true } rest
  | seen, c :: rest => isAuthorityChar c && authorityFrom seen rest

/-- Whether a text is an authority. -/
def isAuthority (cs : List Char) : Bool :=
  !cs.isEmpty && authorityFrom Seen.nothing cs

/-- What stands before a number sign. -/
def beforeFragment (cs : List Char) : List Char :=
  cs.takeWhile (· ≠ '#')

/-- What stands before the first question mark. -/
def pathOf (cs : List Char) : List Char :=
  cs.takeWhile (· ≠ '?')

/-- What stands after the first question mark. -/
def queryOf (cs : List Char) : List Char :=
  (cs.dropWhile (· ≠ '?')).drop 1

/-- A text is no shorter than its path and its query. -/
theorem shortest_sublist (cs : List Char) : (shortest (pathOf cs) (queryOf cs)).Sublist cs := by
  unfold shortest
  split
  · exact List.takeWhile_sublist _
  · next query =>
    have sign : cs.dropWhile (· ≠ '?') = '?' :: queryOf cs := by
      have first := List.head?_dropWhile_not (· ≠ '?') cs
      unfold queryOf at query ⊢
      cases rest : cs.dropWhile (· ≠ '?') with
      | nil =>
        rw [rest] at query
        exact absurd rfl query
      | cons c later =>
        rw [rest] at first
        have same : c = '?' := by simpa using first
        rw [same, List.drop_one, List.tail_cons]
    have whole : pathOf cs ++ '?' :: queryOf cs = cs := by
      rw [← sign, pathOf, List.takeWhile_append_dropWhile]
    simp only [whole, List.Sublist.refl]

theorem fits_of_beforeFragment {cs : List Char} (fits : byteLength cs ≤ longest) :
    byteLength (shortest (pathOf (beforeFragment cs)) (queryOf (beforeFragment cs))) ≤ longest :=
  Nat.le_trans
    (byteLength_le_of_sublist ((shortest_sublist _).trans (List.takeWhile_sublist _))) fits

/-- The target that a path and all after it make up. -/
def ofPath? (cs : List Char) (fits : byteLength cs ≤ longest) : Option Target :=
  let target : Target := ⟨_, _, fits_of_beforeFragment fits⟩
  if target.path.all isPathChar && target.query.all isQueryChar then some target else none

/-- The characters that end an authority. -/
def endsAuthority (c : Char) : Bool :=
  c = '/' || c = '?' || c = '#'

/-- The target that an authority and all after it make up. -/
def ofAuthority? (cs : List Char) (fits : byteLength cs ≤ longest) : Option Target :=
  if isAuthority (cs.takeWhile fun c => !endsAuthority c) then
    ofPath? (cs.dropWhile fun c => !endsAuthority c)
      (Nat.le_trans (byteLength_le_of_sublist (List.dropWhile_sublist _)) fits)
  else none

/-- What stands after a scheme. -/
def afterScheme (cs : List Char) : List Char :=
  cs.dropWhile isSchemeChar

theorem afterScheme_sublist (cs : List Char) : ((afterScheme cs).drop 3).Sublist cs :=
  (List.drop_sublist _ _).trans (List.dropWhile_sublist _)

/-- The target that a text stands for. -/
def ofList? (cs : List Char) : Option Target :=
  if fits : byteLength cs ≤ longest then
    if cs.head? = some '/' then ofPath? cs fits
    else if (afterScheme cs).take 3 = [':', '/', '/'] then
      if longestScheme < (cs.takeWhile isSchemeChar).length then none
      else
        ofAuthority? ((afterScheme cs).drop 3)
          (Nat.le_trans (byteLength_le_of_sublist (afterScheme_sublist cs)) fits)
    else if isAuthority cs then some ⟨[], [], Nat.zero_le _⟩
    else none
  else none

/-- The target that a text stands for. -/
def parse? (s : String) : Option Target :=
  ofList? s.toList

end Target

end StatusPage.Http
