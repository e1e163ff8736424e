import StatusPage.Incident
import StatusPage.Instant.Reader
import StatusPage.Store.Cell
import StatusPage.Store.Fault
import StatusPage.Store.Table
import StatusPage.Component
import StatusPage.ImpactType
import StatusPage.Update

/-!
The tables of the store.

A store is eight tables. Identifiers and instants are kept as texts, so a row can hold a text that
is neither: whoever reads a row reads its texts again. A call answers with a value or a fault and
leaves a store; `Outcome` is both.
-/

namespace StatusPage

namespace Store

structure ComponentRow where
  id : Option String
  displayName : String
  deriving DecidableEq

structure LabelRow where
  component : String
  key : String
  value : String
  deriving DecidableEq

structure ImpactTypeRow where
  id : Option String
  displayName : String
  description : String
  deriving DecidableEq

structure SeverityRow where
  displayName : Option String
  value : Cell
  deriving DecidableEq

structure PhaseRow where
  generation : Cell
  order : Cell
  name : String
  deriving DecidableEq

structure IncidentRow where
  id : Option String
  displayName : String
  description : String
  beganAt : String
  endedAt : Option String
  generation : Cell
  order : Cell
  deriving DecidableEq

structure ImpactRow where
  incident : String
  component : String
  impactType : String
  severity : Cell
  deriving DecidableEq

structure UpdateRow where
  incident : String
  order : Cell
  displayName : String
  description : String
  createdAt : String
  deriving DecidableEq

end Store

/-- All that the page keeps. -/
structure Store where
  components : Store.Table Store.ComponentRow
  labels : Store.Table Store.LabelRow
  impactTypes : Store.Table Store.ImpactTypeRow
  severities : Store.Table Store.SeverityRow
  phases : Store.Table Store.PhaseRow
  incidents : Store.Table Store.IncidentRow
  impacts : Store.Table Store.ImpactRow
  updates : Store.Table Store.UpdateRow
  /-- Whether impacts are refused at present. -/
  impactsBlocked : Bool
  deriving DecidableEq

namespace Store

/-- The store with nothing in it. -/
def empty : Store := ⟨∅, ∅, ∅, ∅, ∅, ∅, ∅, ∅, false⟩

instance : EmptyCollection Store := ⟨empty⟩

instance : Inhabited Store := ⟨empty⟩

/-! ## Outcomes -/

/-- What a call answers and the store it leaves. -/
structure Outcome (α : Type) where
  answer : Except Fault α
  store : Store

namespace Outcome

/-- A call that fails and leaves the store as it was. -/
def fail {α : Type} (s : Store) (fault : Fault) : Outcome α := ⟨.error fault, s⟩

/-- A call that only reads. -/
def ofRead {α : Type} (s : Store) (answer : Except Fault α) : Outcome α := ⟨answer, s⟩

/-- A call that writes all it has to write or nothing, and then answers from what it wrote. -/
def ofWrite {α β : Type} (s : Store) (written : Except Fault (β × Store))
    (answer : β → Except Fault α) : Outcome α :=
  match written with
  | .error fault => fail s fault
  | .ok (b, next) => ⟨answer b, next⟩

def map {α β : Type} (o : Outcome α) (f : α → β) : Outcome β :=
  ⟨o.answer.map f, o.store⟩

end Outcome

/-! ## Reading columns -/

/-- The text in a column of a result that may be empty. -/
def textColumn (index : Nat) (column : String) : Option String → Except Cause String
  | some text => .ok text
  | none => .error (.columnType "Null" index column)

/-- The integer in a column of a result. -/
def intColumn (index : Nat) (column : String) : Cell → Except Cause Int
  | .int value => .ok value
  | cell => .error (.columnType cell.kindName index column)

/-- The identifier that a text stands for. -/
def readId (text : String) : Except Fault Uuid :=
  (Uuid.parse text).mapError .unreadableId

/-- The instant that a text stands for. -/
def readTime (text : String) : Except Fault Instant :=
  (Instant.ofStored text).mapError fun flaw => .unreadableTime flaw.message

/-- An integer as a number of 32 bits. -/
def readUInt32 (column : String) (value : Int) : Except Fault UInt32 :=
  if 0 ≤ value ∧ value < 4294967296 then .ok (UInt32.ofNat value.toNat)
  else .error (.corrupt (column ++ " out of range: " ++ Text.integer value))

/-- An integer as a severity. -/
def readSeverity (value : Int) : Except Fault UInt8 :=
  if 0 ≤ value ∧ value < 256 then .ok (UInt8.ofNat value.toNat)
  else .error (.corrupt ("severity out of range: " ++ Text.integer value))

/-- The low 32 bits of an integer. -/
def lowBits (value : Int) : UInt32 :=
  UInt32.ofNat (value % 4294967296).toNat

/-- The cell of a number of 32 bits. -/
def cell32 (n : UInt32) : Cell := .int n.toNat

/-- The cell of a severity. -/
def cell8 (n : UInt8) : Cell := .int n.toNat

/-! ## Orders -/

/-- The order of texts that may be missing: a missing one comes first. -/
def optionLe : Option String → Option String → Bool
  | none, _ => true
  | some _, none => false
  | some a, some b => decide (a ≤ b)

/-- The order by one key and then by another. -/
def thenLe {α : Type} [DecidableEq α] (first : α → α → Bool) (a b : α) (second : Bool) : Bool :=
  if a = b then second else first a b

/-- The order of texts. -/
def textLe (a b : String) : Bool := decide (a ≤ b)

end Store

end StatusPage
