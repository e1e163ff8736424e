import StatusPage.Error
import StatusPage.Labels
import StatusPage.Text.Split

/-!
Label selectors.

A selector is a query in one line, `key:value,key:value`. White space around keys and values does
not count, parts with nothing in them are passed over, and a value may hold further colons. One key
with two values could match nothing and is refused.
-/

namespace StatusPage.Labels

open Text

/-- The parts of a selector that have something in them, trimmed. -/
def segments (selector : List Char) : List (List Char) :=
  ((pieces ',' selector).map trim).filter (· ≠ [])

/-- The key and value that one part of a selector asks for. -/
def pairOf (segment : List Char) : Except Error (String × String) :=
  match splitFirst? ':' segment with
  | none => .error (.invalid (.pairWithoutColon (String.ofList segment)))
  | some (key, value) =>
    if trim key = [] then .error (.invalid (.pairWithoutKey (String.ofList segment)))
    else .ok (String.ofList (trim key), String.ofList (trim value))

/-- The query with one more pair, unless it has another value for the key. -/
def select (query : Labels) (key value : String) : Except Error Labels :=
  match query.get? key with
  | some first =>
    if first = value then .ok (query.insert key value)
    else .error (.invalid (.keySelectedTwice key first value))
  | none => .ok (query.insert key value)

/-- The query with the pairs of further parts of a selector. -/
def selectAll (query : Labels) : List (List Char) → Except Error Labels
  | [] => .ok query
  | segment :: rest => do
    let (key, value) ← pairOf segment
    selectAll (← select query key value) rest

/-- Reads a selector. -/
def parseSelector (selector : String) : Except Error Labels :=
  selectAll ∅ (segments selector.toList)

/-- The selector that writes the given pairs. -/
def renderPairs (pairs : List (String × String)) : String :=
  String.ofList ([','].intercalate (pairs.map fun p => p.1.toList ++ ':' :: p.2.toList))

/-- Refuses a label set that has a blank key. -/
def validate (labels : Labels) : Except Error Unit :=
  if labels.keysVisible then .ok () else .error (.invalid .blankLabelKey)

end StatusPage.Labels
