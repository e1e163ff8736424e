import StatusPage.Error

/-!
Faults of the store.

Beside the refusals that any store has, a call can fail in the tables themselves: a constraint is
violated or a column holds what it should not. Such a failure names the operation and the key it
was about. A row that was found can still hold an identifier, an instant or a number that cannot be
read. Violated constraints are conflicts; the rest means that the store is of no use.
-/

namespace StatusPage.Store

open Text

/-- Why the tables did not carry out a statement. -/
inductive Cause where
  /-- The columns have these values together in another row. -/
  | unique (columns : List String)
  /-- A row would refer to nothing. -/
  | foreignKey
  /-- A row would break the named rule. -/
  | check (rule : String)
  /-- No impacts are taken at present. -/
  | impactsBlocked
  /-- A column of a result does not hold what is read from it. -/
  | columnType (found : String) (index : Nat) (column : String)
  deriving DecidableEq, Repr

namespace Cause

def message : Cause → String
  | .unique columns => "UNIQUE constraint failed: " ++ ", ".intercalate columns
  | .foreignKey => "FOREIGN KEY constraint failed"
  | .check rule => "CHECK constraint failed: " ++ rule
  | .impactsBlocked => "impacts blocked"
  | .columnType found index column =>
    "Invalid column type " ++ found ++ " at index: " ++ natural index ++ ", name: " ++ column

/-- Whether a constraint is violated. -/
def isConstraint : Cause → Bool
  | .columnType .. => false
  | _ => true

end Cause

/-- Why a call to the store failed. -/
inductive Fault where
  | refused (error : Error)
  /-- An operation failed in the tables; the key says what it was about. -/
  | failed (operation key : String) (cause : Cause)
  | unreadableId (flaw : Uuid.Flaw)
  | unreadableTime (reason : String)
  | corrupt (detail : String)
  deriving DecidableEq

namespace Fault

def message : Fault → String
  | .refused error => error.message
  | .failed operation key cause =>
    operation ++ " " ++ key ++ ": Rusqlite(\"" ++ cause.message ++ "\")"
  | .unreadableId flaw => "uuid parse error: " ++ flaw.message
  | .unreadableTime reason => "date/time parse error: " ++ reason
  | .corrupt detail => "corrupt row: " ++ detail

def kind : Fault → ErrorKind
  | .refused error => error.kind
  | .failed _ _ cause => if cause.isConstraint then .conflict else .storeUnavailable
  | .unreadableId _ => .storeUnavailable
  | .unreadableTime _ => .storeUnavailable
  | .corrupt _ => .storeUnavailable

end Fault

/-- Names the operation and key that a statement was part of. -/
def during {α : Type} (operation key : String) (result : Except Cause α) : Except Fault α :=
  result.mapError fun cause => .failed operation key cause

/-- A refusal as a fault of the store. -/
def refusing {α : Type} (result : Except Error α) : Except Fault α :=
  result.mapError .refused

end StatusPage.Store
