import StatusPage.Text.Digits
import StatusPage.Text.Hidden

/-!
Quoted texts.

A message that names a text given by a caller puts it between double quotes. The quote, the
backslash and the four controls with a letter of their own are written with a backslash, and every
other character that would not show is written by its code point in braces.
-/

namespace StatusPage.Text

/-- One character as it stands between the quotes. -/
def escaped (c : Char) : List Char :=
  match c with
  | '"' => ['\\', '"']
  | '\\' => ['\\', '\\']
  | '\n' => ['\\', 'n']
  | '\r' => ['\\', 'r']
  | '\t' => ['\\', 't']
  | '\x00' => ['\\', '0']
  | c => if isHidden c then ['\\', 'u', '{'] ++ Nat.toDigits 16 c.toNat ++ ['}'] else [c]

/-- A text between double quotes, with all that is in it visible. -/
def quoted (s : String) : String :=
  String.ofList ('"' :: s.toList.flatMap escaped ++ ['"'])

end StatusPage.Text
