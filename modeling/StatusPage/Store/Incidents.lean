import StatusPage.Store.Components
import StatusPage.Store.ImpactTypes
import StatusPage.Store.Phases

/-!
Incidents in the store.

A write of an incident replaces its row and all its impacts, or changes nothing. What it refers to
is checked first, the phase before the impacts and the component of an impact before its type. An
incident created without a phase gets the first one of the current generation, and one updated
without a phase keeps the phase it has.
-/

namespace StatusPage.Store

/-- Whether there is an incident with the identifier. -/
def hasIncident (s : Store) (id : Uuid) : Bool :=
  s.incidents.rows.any fun i => i.id == some id.text

/-! ## Checks -/

/-- Refuses the first impact whose component or type does not exist. -/
def checkImpacts (s : Store) : List Impact → Except Error Unit
  | [] => .ok ()
  | impact :: impacts =>
    if !s.hasComponent impact.component then .error (.componentNotFound impact.component)
    else if !s.hasImpactType impact.impactType then .error (.impactTypeNotFound impact.impactType)
    else s.checkImpacts impacts

/-- Refuses a phase that does not exist, then an impact that refers to nothing. -/
def checkReferences (s : Store) (input : NewIncident) : Except Error Unit :=
  match input.phase with
  | some phase =>
    if s.hasPhase phase then s.checkImpacts input.impacts else .error (.phaseNotFound phase)
  | none => s.checkImpacts input.impacts

/-- The rule on the bounds of a window, compared as stored texts. -/
def windowRule : String := "ended_at IS NULL OR ended_at >= began_at"

/-- The rule on severities. -/
def severityRule : String := "severity BETWEEN 0 AND 100"

/-- Whether the stored bounds of a window are in order. -/
def boundsInOrder (beganAt : String) (endedAt : Option String) : Bool :=
  endedAt.all fun ended => decide (beganAt ≤ ended)

/-! ## Rows -/

/-- The rows of new impacts of an incident. -/
def impactRow (id : Uuid) (impact : Impact) : ImpactRow :=
  ⟨id.text, impact.component.text, impact.impactType.text, cell8 impact.severity⟩

/-- The table with the rows of new impacts, unless impacts are blocked or a severity is off the
scale. -/
def insertImpacts (blocked : Bool) (id : Uuid) (table : Table ImpactRow) :
    List Impact → Except Cause (Table ImpactRow)
  | [] => .ok table
  | impact :: impacts =>
    if blocked then .error .impactsBlocked
    else if (cell8 impact.severity).between 0 100 then
      insertImpacts blocked id (table.insert (impactRow id impact)) impacts
    else .error (.check severityRule)

/-- The store with the given impacts for an incident in place of those it had. -/
def replaceImpacts (s : Store) (id : Uuid) (impacts : List Impact) : Except Cause Store :=
  (insertImpacts s.impactsBlocked id (s.impacts.filter fun m => m.incident ≠ id.text) impacts).map
    fun table => { s with impacts := table }

/-- The columns of an incident row that can hold what they should not. -/
structure IncidentColumns where
  row : IncidentRow
  id : String
  generation : Int
  order : Int

/-- The columns of an incident row. -/
def IncidentRow.columns (row : IncidentRow) : Except Cause IncidentColumns := do
  let id ← textColumn 0 "incident_id" row.id
  let generation ← intColumn 5 "phase_generation" row.generation
  let order ← intColumn 6 "phase_order" row.order
  return ⟨row, id, generation, order⟩

/-- The instant that a text stands for, if there is one. -/
def readOptionalTime : Option String → Except Fault (Option Instant)
  | none => .ok none
  | some text => (readTime text).map some

/-- The incident that a row stands for. -/
def IncidentColumns.incident (c : IncidentColumns) : Except Fault Incident := do
  let id ← readId c.id
  let beganAt ← readTime c.row.beganAt
  let endedAt ← readOptionalTime c.row.endedAt
  let generation ← readUInt32 "phase_generation" c.generation
  let order ← readUInt32 "phase_order" c.order
  return ⟨id, c.row.displayName, c.row.description, beganAt, endedAt, ⟨generation, order⟩⟩

/-- The row of an incident. -/
def findIncident (s : Store) (id : Uuid) : Option IncidentRow :=
  s.incidents.rows.find? fun i => i.id == some id.text

/-! ## Writing -/

/-- The phase of a new incident. -/
def initialPhase (s : Store) (operation key : String) : Option PhaseRef → Except Fault PhaseRef
  | some phase => .ok phase
  | none => do
    let current ← during operation key s.maxGeneration
    if current = 0 then throw (.refused (.generationNotFound 0))
    return ⟨current, 0⟩

/-- The store with the row of a new incident, unless the tables forbid it. -/
def insertIncident (s : Store) (row : IncidentRow) : Except Cause Store :=
  if !boundsInOrder row.beganAt row.endedAt then .error (.check windowRule)
  else if s.incidents.rows.any fun i => i.id.isSome && i.id == row.id then
    .error (.unique ["incidents.incident_id"])
  else if s.phases.rows.any fun p => p.generation == row.generation && p.order == row.order then
    .ok { s with incidents := s.incidents.insert row }
  else .error .foreignKey

/-- Creates an incident under a drawn identifier. -/
def createIncident (s : Store) (id : Uuid) (input : NewIncident) : Outcome Incident :=
  .ofWrite s (do
    refusing input.validate
    refusing (s.checkReferences input)
    let phase ← s.initialPhase "create_incident" id.text input.phase
    let row : IncidentRow := ⟨some id.text, input.displayName, input.description,
      input.beganAt.storedText, input.endedAt.map Instant.storedText, cell32 phase.generation,
      cell32 phase.order⟩
    let inserted ← during "create_incident" id.text (s.insertIncident row)
    let next ← during "create_incident" id.text (inserted.replaceImpacts id input.impacts)
    let columns ← during "create_incident" id.text row.columns
    return (columns, next)) IncidentColumns.incident

/-- The row of an incident with new content. -/
def IncidentRow.revise (row : IncidentRow) (input : NewIncident) : IncidentRow where
  id := row.id
  displayName := input.displayName
  description := input.description
  beganAt := input.beganAt.storedText
  endedAt := input.endedAt.map Instant.storedText
  generation := input.phase.elim row.generation fun phase => cell32 phase.generation
  order := input.phase.elim row.order fun phase => cell32 phase.order

/-- The store with a row in place of that of an incident, unless the tables forbid it. -/
def reviseIncident (s : Store) (id : Uuid) (row : IncidentRow) : Except Cause Store :=
  if !boundsInOrder row.beganAt row.endedAt then .error (.check windowRule)
  else if s.phases.rows.any fun p => p.generation == row.generation && p.order == row.order then
    .ok { s with incidents := s.incidents.map fun i => if i.id = some id.text then row else i }
  else .error .foreignKey

/-- Replaces the content of an incident and all its impacts. -/
def updateIncident (s : Store) (id : Uuid) (input : NewIncident) : Outcome Incident :=
  .ofWrite s (do
    refusing input.validate
    match s.findIncident id with
    | none => throw (.refused (.incidentNotFound id))
    | some old =>
      refusing (s.checkReferences input)
      let row := old.revise input
      let revised ← during "update_incident" id.text (s.reviseIncident id row)
      let next ← during "update_incident" id.text (revised.replaceImpacts id input.impacts)
      let columns ← during "update_incident" id.text row.columns
      return (columns, next)) IncidentColumns.incident

/-- Deletes an incident with its impacts and updates. -/
def deleteIncident (s : Store) (id : Uuid) : Outcome Unit :=
  if s.hasIncident id then
    ⟨.ok (), { s with
      incidents := s.incidents.filter fun i => i.id ≠ some id.text
      impacts := s.impacts.filter fun m => m.incident ≠ id.text
      updates := s.updates.filter fun u => u.incident ≠ id.text }⟩
  else .fail s (.refused (.incidentNotFound id))

/-! ## Reading -/

/-- The incident with the identifier. -/
def getIncident (s : Store) (id : Uuid) : Except Fault (Option Incident) :=
  match s.findIncident id with
  | none => .ok none
  | some row => do
    let columns ← during "get_incident" id.text row.columns
    return some (← columns.incident)

/-- Which incidents a listing shows. -/
structure IncidentQuery where
  /-- Whether an incident has to be active. -/
  active : Bool
  /-- The instant at which it has to be active; none asks for open incidents. -/
  instant : Option Instant

/-- The order of a listing of incidents: by beginning, the latest first, then by identifier. -/
def IncidentRow.le (a b : IncidentRow) : Bool :=
  thenLe (fun x y => textLe y x) a.beganAt b.beganAt (optionLe a.id b.id)

/-- The incidents that a query asks for, the latest first. -/
def listIncidents (s : Store) (query : IncidentQuery) : Except Fault (List Incident) := do
  let rows := (s.incidents.rows.filter fun i => !query.active || i.activeAt query.instant).mergeSort
    IncidentRow.le
  let found ← during "list_incidents" "" (rows.mapM IncidentRow.columns)
  found.mapM IncidentColumns.incident

/-! ## Impacts at an instant -/

/-- Two identifiers and a severity that a row of impacts gives. -/
structure ImpactColumns where
  other : String
  impactType : String
  severity : Int

/-- The order of impacts: by the entity at the other end, then by type. -/
def otherLe (other : ImpactRow → String) (a b : ImpactRow) : Bool :=
  thenLe textLe (other a) (other b) (textLe a.impactType b.impactType)

/-- The columns of impacts, by the entity at the other end and then by type. -/
def impactColumns (other : ImpactRow → String) (rows : List ImpactRow) :
    Except Cause (List ImpactColumns) :=
  (rows.mergeSort (otherLe other)).mapM fun m =>
    (intColumn 2 "severity" m.severity).map fun severity => ⟨other m, m.impactType, severity⟩

/-- Two identifiers and a severity, as they were read. -/
def ImpactColumns.values (c : ImpactColumns) : Except Fault (Uuid × Uuid × UInt8) := do
  let other ← readId c.other
  let impactType ← readId c.impactType
  let severity ← readSeverity c.severity
  return (other, impactType, severity)

/-- The impacts of an incident that are in force at an instant, by component and then by type. -/
def affectedComponents (s : Store) (id : Uuid) (t : Option Instant) :
    Except Fault (List Impact) :=
  if s.hasIncident id then do
    let found ← during "affected_components" id.text <|
      impactColumns (·.component) ((s.activeImpacts t).filter fun m => m.incident == id.text)
    found.mapM fun c => c.values.map fun (component, impactType, severity) =>
      ⟨component, impactType, severity⟩
  else .error (.refused (.incidentNotFound id))

/-- The impacts on a component that are in force at an instant, by incident and then by type. -/
def affectingIncidents (s : Store) (id : Uuid) (t : Option Instant) :
    Except Fault (List AffectingIncident) :=
  if s.hasComponent id then do
    let found ← during "affecting_incidents" id.text <|
      impactColumns (·.incident) ((s.activeImpacts t).filter fun m => m.component == id.text)
    found.mapM fun c => c.values.map fun (incident, impactType, severity) =>
      ⟨incident, impactType, severity⟩
  else .error (.refused (.componentNotFound id))

end StatusPage.Store
