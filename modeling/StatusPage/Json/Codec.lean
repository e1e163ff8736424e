import StatusPage.Instant.Reader
import StatusPage.Instant.Written
import StatusPage.Json.Reader
import StatusPage.Json.Written
import StatusPage.Labels
import StatusPage.Uuid

/-!
Codecs: how values of a type are written as JSON and read back.

A codec of a record is made from its fields in order. A record is read from an object, in which
members with other names are passed over, or from an array of its fields in that order. Reading
goes from left to right and stops at the first problem, which is one of two: the text is no JSON,
or it is JSON of the wrong shape.
-/

namespace StatusPage.Json

/-- Why no value could be read. -/
inductive Fault where
  /-- The text is not JSON, or a string or number in it stands for nothing. -/
  | malformed
  /-- The text is JSON, but not that of a value of the type. -/
  | misshapen
  deriving DecidableEq, Repr

/-- What is wrong with a reading where another kind of value was expected. -/
def Reading.mismatch : Reading → Fault
  | .broken => .malformed
  | .unreadable => .malformed
  | _ => .misshapen

/-- How values of a type are written and read. -/
structure Codec (α : Type) where
  write : α → Json
  read : Reading → Except Fault α

namespace Codec

/-- The values of `α` as values of `β`; reading can refuse some. -/
def refine {α β : Type} (c : Codec α) (out : β → α) (into? : α → Option β) : Codec β where
  write b := c.write (out b)
  read r := do
    match into? (← c.read r) with
    | some b => .ok b
    | none => .error .misshapen

/-- Texts. -/
def string : Codec String where
  write s := .string s
  read
    | .string s => .ok s
    | r => .error r.mismatch

/-- Integers of any size. -/
def int : Codec Int where
  write i := .int i
  read
    | .int i => .ok i
    | r => .error r.mismatch

/-- Integers from `low` to `high`. -/
def intBetween (low high : Int) : Codec Int :=
  int.refine id fun i => if low ≤ i ∧ i ≤ high then some i else none

/-- Integers of 64 bits with sign. -/
def int64 : Codec Int :=
  intBetween (-9223372036854775808) 9223372036854775807

/-- Integers of 8 bits. -/
def uint8 : Codec UInt8 :=
  int.refine (fun n => (n.toNat : Int)) fun i =>
    if 0 ≤ i ∧ i < 256 then some (UInt8.ofNat i.toNat) else none

/-- Integers of 16 bits. -/
def uint16 : Codec UInt16 :=
  int.refine (fun n => (n.toNat : Int)) fun i =>
    if 0 ≤ i ∧ i < 65536 then some (UInt16.ofNat i.toNat) else none

/-- Integers of 32 bits. -/
def uint32 : Codec UInt32 :=
  int.refine (fun n => (n.toNat : Int)) fun i =>
    if 0 ≤ i ∧ i < 4294967296 then some (UInt32.ofNat i.toNat) else none

/-- Truth values. -/
def bool : Codec Bool where
  write b := .bool b
  read
    | .bool b => .ok b
    | r => .error r.mismatch

/-- Identifiers, as texts. -/
def uuid : Codec Uuid :=
  string.refine Uuid.text fun s => Uuid.ofList? s.toList

/-- Instants, as texts. -/
def instant : Codec Instant :=
  string.refine Instant.text Instant.parse?

/-- Reads elements one after the other. -/
def readAll {α : Type} (c : Codec α) : List Reading → Except Fault (List α)
  | [] => .ok []
  | item :: items => do
    let first ← c.read item
    let others ← readAll c items
    return first :: others

/-- Lists. -/
def list {α : Type} (c : Codec α) : Codec (List α) where
  write items := .array (items.map c.write)
  read
    | .array items => readAll c items
    | r => .error r.mismatch

/-- Values that may be `null`. -/
def nullable {α : Type} (c : Codec α) : Codec (Option α) where
  write
    | some a => c.write a
    | none => .null
  read
    | .null => .ok none
    | r => (c.read r).map some

/-- Reads the pairs of a label set one after the other. -/
def readPairs : List (Option String × Reading) → Except Fault (List (String × String))
  | [] => .ok []
  | (none, _) :: _ => .error .malformed
  | (some key, value) :: members => do
    let value ← string.read value
    let others ← readPairs members
    return (key, value) :: others

/-- Label sets; of two values for a key the later one counts. -/
def labels : Codec Labels where
  write l := .object (l.entries.map fun p => (p.1, .string p.2))
  read
    | .object members => (readPairs members).map Labels.ofList
    | r => .error r.mismatch

end Codec

/-! ## Records -/

/-- What the absence of a field means. -/
inductive Absence (α : Type) where
  /-- The field has to be there. -/
  | required
  /-- An object without the field has this value for it. -/
  | nullable (value : α)
  /-- An object without the field, and an array that ends before it, have this value for it. -/
  | defaulted (value : α)

/-- A field of a record. -/
structure RecordField (α : Type) where
  name : String
  codec : Codec α
  absence : Absence α

namespace RecordField

/-- A field that has to be there. -/
def required {α : Type} (name : String) (codec : Codec α) : RecordField α :=
  ⟨name, codec, .required⟩

/-- A field that may be `null` or absent from an object. -/
def optional {α : Type} (name : String) (codec : Codec α) : RecordField (Option α) :=
  ⟨name, codec.nullable, .nullable none⟩

/-- A field with a value of its own when it is absent. -/
def defaulted {α : Type} (name : String) (codec : Codec α) (value : α) : RecordField α :=
  ⟨name, codec, .defaulted value⟩

end RecordField

/-- The fields of a record in order; their values make up a nested pair. -/
inductive Fields : Type → Type 1 where
  | nil : Fields Unit
  | cons {α β : Type} (field : RecordField α) (rest : Fields β) : Fields (α × β)

namespace Fields

/-- The names of the fields. -/
def names {α : Type} : Fields α → List String
  | .nil => []
  | .cons field rest => field.name :: rest.names

/-- The members of a written record. -/
def write {α : Type} : Fields α → α → List (String × Json)
  | .nil, _ => []
  | .cons field rest, (first, others) => (field.name, field.codec.write first) :: rest.write others

/-- The test that the value of a named field has to pass, if there is a field of that name. -/
def check? {α : Type} : Fields α → String → Option (Reading → Except Fault Unit)
  | .nil, _ => none
  | .cons field rest, name =>
    if field.name = name then some fun r => (field.codec.read r).map fun _ => ()
    else rest.check? name

/-- The members of an object that are fields, each tested where it stands. `seen` are the names
that came before. -/
def scan {α : Type} (fields : Fields α) (seen : List String) :
    List (Option String × Reading) → Except Fault (List (String × Reading))
  | [] => .ok []
  | (none, _) :: _ => .error .malformed
  | (some name, value) :: members =>
    match fields.check? name with
    | none => if value.sound then fields.scan seen members else .error .malformed
    | some check => do
      if name ∈ seen then throw .misshapen
      check value
      let others ← fields.scan (name :: seen) members
      return (name, value) :: others

/-- The values of the fields among members that passed their tests. -/
def pick {α : Type} : Fields α → List (String × Reading) → Except Fault α
  | .nil, _ => .ok ()
  | .cons field rest, found => do
    let first ← match found.lookup field.name with
      | some value => field.codec.read value
      | none => match field.absence with
        | .required => .error .misshapen
        | .nullable value => .ok value
        | .defaulted value => .ok value
    let others ← rest.pick found
    return (first, others)

/-- The values of the fields among the elements of an array. -/
def align {α : Type} : Fields α → List Reading → Except Fault α
  | .nil, [] => .ok ()
  | .nil, _ :: _ => .error .malformed
  | .cons field rest, item :: items => do
    let first ← field.codec.read item
    let others ← rest.align items
    return (first, others)
  | .cons field rest, [] =>
    match field.absence with
    | .defaulted value => (rest.align []).map fun others => (value, others)
    | _ => .error .misshapen

/-- The codec of a record with these fields. -/
def codec {α β : Type} (fields : Fields β) (out : α → β) (into : β → α) : Codec α where
  write a := .object (fields.write (out a))
  read
    | .object members => do
      let found ← fields.scan [] members
      return into (← fields.pick found)
    | .array items => (fields.align items).map into
    | r => .error r.mismatch

end Fields

namespace Codec

/-- Reads a whole text: a value with nothing after it. -/
def readDocument {α : Type} (c : Codec α) (document : Document) : Except Fault α := do
  let value ← c.read document.value
  if document.trailing then throw .malformed
  return value

/-- Reads a whole text: a value with nothing after it. -/
def parse {α : Type} (c : Codec α) (text : String) : Except Fault α :=
  c.readDocument (Json.read text)

end Codec

end StatusPage.Json
