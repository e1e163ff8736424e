/-!
JSON values.

`Json` is a value as this library writes it: all its numbers are integers. `Json.Reading` is a text
as far as it could be read: it keeps the members of an object in the order of the text, tells
numbers that are no integers apart, and marks two kinds of damage, so that a reader that walks it
from left to right meets the first problem of the text first.
-/

namespace StatusPage

/-- A JSON value whose numbers are integers. -/
inductive Json where
  | null
  | bool (value : Bool)
  | int (value : Int)
  | string (value : String)
  | array (items : List Json)
  | object (members : List (String × Json))
  deriving Inhabited

namespace Json

/-- What a JSON text says, as far as it can be read. -/
inductive Reading where
  | null
  | bool (value : Bool)
  | int (value : Int)
  /-- A number written with a fraction, an exponent or a minus before its zero. -/
  | fractional
  | string (value : String)
  | array (items : List Reading)
  /-- The members in the order of the text; a key that is no text is `none`. -/
  | object (members : List (Option String × Reading))
  /-- A string or number of the right form that stands for no text and no number. -/
  | unreadable
  /-- Here the text stops being JSON. -/
  | broken
  deriving Inhabited

namespace Reading

/-! A text is sound when it is JSON to its end, whether or not all of it is readable. -/

mutual

/-- Whether a text is JSON to its end. -/
def sound : Reading → Bool
  | .broken => false
  | .array items => soundItems items
  | .object members => soundMembers members
  | _ => true
termination_by structural r => r

/-- Whether all elements are JSON to their end. -/
def soundItems : List Reading → Bool
  | [] => true
  | item :: items => item.sound && soundItems items
termination_by structural items => items

/-- Whether all members are JSON to their end. -/
def soundMembers : List (Option String × Reading) → Bool
  | [] => true
  | (_, value) :: members => value.sound && soundMembers members
termination_by structural members => members

end

mutual

/-- The same text with only the last of the members that share a key. -/
def lastWins : Reading → Reading
  | .array items => .array (lastWinsItems items)
  | .object members => .object (lastWinsMembers members)
  | r => r
termination_by structural r => r

/-- The same elements with only the last of the members that share a key. -/
def lastWinsItems : List Reading → List Reading
  | [] => []
  | item :: items => item.lastWins :: lastWinsItems items
termination_by structural items => items

/-- The last of the members that share a key. -/
def lastWinsMembers : List (Option String × Reading) → List (Option String × Reading)
  | [] => []
  | (key, value) :: members =>
    if members.any fun m => m.1 == key then lastWinsMembers members
    else (key, value.lastWins) :: lastWinsMembers members
termination_by structural members => members

end

/-- The member of an object with the given key. -/
def member? (r : Reading) (key : String) : Option Reading :=
  match r with
  | .object members => members.lookup (some key)
  | _ => none

end Reading

mutual

/-- The reading of the text of a value. -/
def reading : Json → Reading
  | .null => .null
  | .bool value => .bool value
  | .int value => .int value
  | .string value => .string value
  | .array items => .array (readingItems items)
  | .object members => .object (readingMembers members)
termination_by structural j => j

/-- The reading of elements. -/
def readingItems : List Json → List Reading
  | [] => []
  | item :: items => item.reading :: readingItems items
termination_by structural items => items

/-- The reading of members. -/
def readingMembers : List (String × Json) → List (Option String × Reading)
  | [] => []
  | (key, value) :: members => (some key, value.reading) :: readingMembers members
termination_by structural members => members

end

end Json

end StatusPage
