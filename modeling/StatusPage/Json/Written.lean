import StatusPage.Json
import StatusPage.Text.Digits

/-!
Written JSON.

Values are written without white space, members in the order they have. In a string the quote, the
backslash and the controls below the blank are escaped, five of the controls by a letter.
-/

namespace StatusPage.Json

open Text

/-- One character as it stands in a written string. -/
def escape (c : Char) : List Char :=
  match c with
  | '"' => ['\\', '"']
  | '\\' => ['\\', '\\']
  | '\x08' => ['\\', 'b']
  | '\t' => ['\\', 't']
  | '\n' => ['\\', 'n']
  | '\x0c' => ['\\', 'f']
  | '\r' => ['\\', 'r']
  | c => if c.toNat < 0x20 then ['\\', 'u'] ++ fixedDigits 16 4 c.toNat else [c]

/-- A written string. -/
def writeString (s : String) : List Char :=
  '"' :: s.toList.flatMap escape ++ ['"']

mutual

/-- A written value. -/
def write : Json → List Char
  | .null => ['n', 'u', 'l', 'l']
  | .bool true => ['t', 'r', 'u', 'e']
  | .bool false => ['f', 'a', 'l', 's', 'e']
  | .int value => (integer value).toList
  | .string value => writeString value
  | .array items => '[' :: writeItems items
  | .object members => '{' :: writeMembers members
termination_by structural j => j

/-- The elements of a written array, with the bracket that closes it. -/
def writeItems : List Json → List Char
  | [] => [']']
  | [item] => item.write ++ [']']
  | item :: items => item.write ++ ',' :: writeItems items
termination_by structural items => items

/-- The members of a written object, with the brace that closes it. -/
def writeMembers : List (String × Json) → List Char
  | [] => ['}']
  | [(key, value)] => writeString key ++ ':' :: value.write ++ ['}']
  | (key, value) :: members =>
    writeString key ++ ':' :: value.write ++ ',' :: writeMembers members
termination_by structural members => members

end

/-- The text of a value. -/
def render (j : Json) : String :=
  String.ofList j.write

example : (Json.object [("a", .array [.int (-1), .null]), ("b", .string "x\ny")]).render =
    "\x7b\"a\":[-1,null],\"b\":\"x\\ny\"\x7d" := by decide

end StatusPage.Json
