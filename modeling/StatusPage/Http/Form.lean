import StatusPage.Text.Percent
import StatusPage.Text.Split

/-!
Parameters in a query.

A query is a list of names and values. Pieces with nothing in them do not count, a piece without an
equals sign has an empty value, and a name that is asked for must not come twice.
-/

namespace StatusPage.Http

open Text

/-- One name and value of a query. -/
def parameter (piece : List Char) : String × String :=
  let (name, value) := (splitFirst? '=' piece).getD (piece, [])
  (String.ofList (formDecode name), String.ofList (formDecode value))

/-- The names and values of a query. -/
def parameters (query : List Char) : List (String × String) :=
  ((pieces '&' query).filter (!·.isEmpty)).map parameter

/-- The value for a name, if there is one; a name that comes twice is an error. -/
def single (name : String) (given : List (String × String)) : Option (Option String) :=
  match given.filter fun p => p.1 == name with
  | [] => some none
  | [p] => some (some p.2)
  | _ => none

end StatusPage.Http
