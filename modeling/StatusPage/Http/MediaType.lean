import StatusPage.Text.Split

/-!
Media types.

A media type is a type and a subtype with parameters after them. What follows the last plus sign of
a subtype is its suffix. JSON is any application type whose subtype or suffix says so, in either
case and with any parameters.
-/

namespace StatusPage.Http

/-- Characters that make up tokens. -/
def isTokenChar (c : Char) : Bool :=
  c.isAlphanum ||
    ['!', '#', '$', '%', '&', '\'', '*', '+', '-', '.', '^', '_', '\x60', '|', '~'].contains c

/-- Whether a text is a token. -/
def isToken (cs : List Char) : Bool :=
  !cs.isEmpty && cs.all isTokenChar

namespace MediaType

/-- Characters that may stand between the quotes of a parameter. -/
def isQuotedChar (c : Char) : Bool :=
  0x20 ≤ c.toNat && c.toNat < 0x7F

/-- The text after a quoted value. The value has a character at least, and that one may be a
quote. -/
def afterQuoted? : List Char → Option (List Char)
  | [] => none
  | first :: rest =>
    let (value, rest) := rest.span (· ≠ '"')
    if rest.isEmpty || !(first :: value).all isQuotedChar then none else some (rest.drop 1)

/-- The text after the value of a parameter: nothing, or what follows a semicolon. -/
def afterValue? : List Char → Option (List Char)
  | '"' :: rest => do
    match (← afterQuoted? rest).dropWhile (· = ' ') with
    | [] => some []
    | ';' :: rest => some rest
    | _ => none
  | cs =>
    match cs.span isTokenChar with
    | (_, []) => some []
    | (_ :: _, ';' :: rest) => some rest
    | _ => none

/-- Whether a text is a list of parameters; the first argument bounds their number. -/
def areParameters : Nat → List Char → Bool
  | 0, _ => false
  | fuel + 1, cs =>
    match cs.dropWhile (· = ' ') with
    | [] => true
    | cs =>
      match cs.span isTokenChar with
      | (_ :: _, '=' :: rest) =>
        match afterValue? rest with
        | some rest => areParameters fuel rest
        | none => false
      | _ => false

/-- A subtype up to its last plus sign, and what follows that sign. A plus sign at the front is part
of the name. -/
def splitSuffix : List Char → List Char × Option (List Char)
  | [] => ([], none)
  | first :: rest =>
    let (suffix, front) := rest.reverse.span (· ≠ '+')
    match front with
    | [] => (first :: rest, none)
    | _ :: front => (first :: front.reverse, some suffix.reverse)

/-- Whether a text names a word, in either case. -/
def isWord (word : String) (cs : List Char) : Bool :=
  cs.map Char.toLower == word.toList

/-- Whether a media type is JSON. -/
def isJson (s : String) : Bool :=
  match Text.splitFirst? '/' s.toList with
  | none => false
  | some (type, rest) =>
    let (subtype, parameters) := rest.span (· ≠ ';')
    let (name, suffix) := splitSuffix subtype
    isWord "application" type && isToken subtype &&
      areParameters (parameters.length + 1) (parameters.drop 1) &&
      (isWord "json" name || suffix.any (isWord "json"))

end MediaType

end StatusPage.Http
