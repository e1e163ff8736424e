import StatusPage.Store.Tables

/-!
Severities in the store.

Severities are known by their names. No two have one name, and no two have one value.
-/

namespace StatusPage.Store

/-- The constraint that a severity violates beside the given rows; values are looked at first. -/
def severityClash? (others : List SeverityRow) (severity : Severity) : Option Cause :=
  if others.any fun r => r.value == cell8 severity.value then
    some (.unique ["severities.value"])
  else if others.any fun r => r.displayName == some severity.displayName then
    some (.unique ["severities.display_name"])
  else none

/-- Creates a severity. -/
def createSeverity (s : Store) (input : Severity) : Outcome Severity :=
  match Severity.make input.displayName input.value.toNat with
  | .error error => .fail s (.refused error)
  | .ok severity =>
    match severityClash? s.severities.rows severity with
    | some cause => .fail s (.failed "create_severity" severity.displayName cause)
    | none =>
      ⟨.ok severity, { s with
        severities := s.severities.insert ⟨some severity.displayName, cell8 severity.value⟩ }⟩

/-- Replaces the severity with the given name, its name included. -/
def updateSeverity (s : Store) (name : String) (input : Severity) : Outcome Severity :=
  match Severity.make input.displayName input.value.toNat with
  | .error error => .fail s (.refused error)
  | .ok severity =>
    if s.severities.rows.any fun r => r.displayName == some name then
      let others := s.severities.rows.filter fun r => r.displayName ≠ some name
      match severityClash? others severity with
      | some cause => .fail s (.failed "update_severity" name cause)
      | none =>
        ⟨.ok severity, { s with
          severities := s.severities.map fun r =>
            if r.displayName = some name then ⟨some severity.displayName, cell8 severity.value⟩
            else r }⟩
    else .fail s (.refused (.severityNotFound name))

/-- Deletes the severity with the given name. -/
def deleteSeverity (s : Store) (name : String) : Outcome Unit :=
  if s.severities.rows.any fun r => r.displayName == some name then
    ⟨.ok (), { s with severities := s.severities.filter fun r => r.displayName ≠ some name }⟩
  else .fail s (.refused (.severityNotFound name))

/-- The columns of a severity row. -/
def SeverityRow.columns (r : SeverityRow) : Except Cause (String × Int) := do
  let name ← textColumn 0 "display_name" r.displayName
  let value ← intColumn 1 "value" r.value
  return (name, value)

/-- The severity with a name and a stored value. -/
def severityOf (columns : String × Int) : Except Fault Severity :=
  (readSeverity columns.2).map fun value => ⟨columns.1, value⟩

/-- The severity with the given name. -/
def getSeverity (s : Store) (name : String) : Except Fault (Option Severity) :=
  match s.severities.rows.find? fun r => r.displayName == some name with
  | none => .ok none
  | some r => do
    let columns ← during "get_severity" name r.columns
    return some (← severityOf columns)

/-- All severities, by value. -/
def listSeverities (s : Store) : Except Fault (List Severity) := do
  let found ← during "list_severities" "" <|
    (s.severities.rows.mergeSort fun a b => a.value.le b.value).mapM SeverityRow.columns
  found.mapM severityOf

end StatusPage.Store
