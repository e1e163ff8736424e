import StatusPage.Store.Incidents

/-!
Incident updates in the store.

A new update gets the number after the largest that its incident has. Afterwards its text can be
replaced, but neither its number nor the instant of its creation.
-/

namespace StatusPage.Store

/-- The updates of an incident. -/
def updatesOf (s : Store) (id : Uuid) : List UpdateRow :=
  s.updates.rows.filter fun u => u.incident == id.text

/-- Whether a row is the update of an incident with the given number. -/
def UpdateRow.isAt (u : UpdateRow) (id : Uuid) (order : UInt32) : Bool :=
  u.incident == id.text && u.order == cell32 order

/-- The key under which a single update is known. -/
def updateKey (id : Uuid) (order : UInt32) : String :=
  id.text ++ "/" ++ Text.natural order.toNat

/-- The number that the next update of an incident gets. -/
def allocateOrder (s : Store) (id : Uuid) : Except Cause UInt32 :=
  match Cell.largest? ((s.updatesOf id).map (·.order)) with
  | none => .ok (nextOrder none)
  | some cell => (intColumn 0 "MAX(ordinal)" cell).map fun value => nextOrder (some (lowBits value))

/-- The number that the next update of an incident gets. -/
def nextUpdateOrder (s : Store) (id : Uuid) : Except Fault UInt32 :=
  if s.hasIncident id then during "next_update_order" id.text (s.allocateOrder id)
  else .error (.refused (.incidentNotFound id))

/-- Adds an update to an incident, created now. -/
def createUpdate (s : Store) (now : Instant) (id : Uuid) (input : NewIncidentUpdate) :
    Outcome IncidentUpdate :=
  .ofWrite s (do
    refusing input.validate
    if !s.hasIncident id then throw (.refused (.incidentNotFound id))
    let order ← during "create_update" id.text (s.allocateOrder id)
    if s.updates.rows.any fun u => u.isAt id order then
      throw (.failed "create_update" id.text
        (.unique ["incident_updates.incident_id", "incident_updates.ordinal"]))
    let row : UpdateRow :=
      ⟨id.text, cell32 order, input.displayName, input.description, now.storedText⟩
    return (order, { s with updates := s.updates.insert row }))
  fun order => .ok ⟨id, order, input.displayName, input.description, now.truncate⟩

/-- The update that a row of an incident stands for, given its number. -/
def UpdateRow.update (u : UpdateRow) (order : Int) : Except Fault IncidentUpdate := do
  let incident ← readId u.incident
  let order ← readUInt32 "ordinal" order
  let createdAt ← readTime u.createdAt
  return ⟨incident, order, u.displayName, u.description, createdAt⟩

/-- The update of an incident with the given number. -/
def getUpdate (s : Store) (id : Uuid) (order : UInt32) : Except Fault (Option IncidentUpdate) :=
  match s.updates.rows.find? fun u => u.isAt id order with
  | none => .ok none
  | some u => (u.update order.toNat).map some

/-- The updates of an incident by number. -/
def listUpdates (s : Store) (id : Uuid) : Except Fault (List IncidentUpdate) :=
  if s.hasIncident id then do
    let found ← during "list_updates" id.text <|
      ((s.updatesOf id).mergeSort fun a b => a.order.le b.order).mapM fun u =>
        (intColumn 1 "ordinal" u.order).map fun order => (u, order)
    found.mapM fun (u, order) => u.update order
  else .error (.refused (.incidentNotFound id))

/-- Replaces the text of an update. -/
def updateUpdate (s : Store) (id : Uuid) (order : UInt32) (input : NewIncidentUpdate) :
    Outcome IncidentUpdate :=
  .ofWrite s (do
    refusing input.validate
    match s.updates.rows.find? fun u => u.isAt id order with
    | none => throw (.refused (.updateNotFound id order))
    | some u =>
      let row := { u with displayName := input.displayName, description := input.description }
      return (row, { s with updates := s.updates.map fun u => if u.isAt id order then row else u }))
  fun row => row.update order.toNat

/-- Deletes an update; its number stays free while a larger one is in use. -/
def deleteUpdate (s : Store) (id : Uuid) (order : UInt32) : Outcome Unit :=
  if s.updates.rows.any fun u => u.isAt id order then
    ⟨.ok (), { s with updates := s.updates.filter fun u => !u.isAt id order }⟩
  else .fail s (.refused (.updateNotFound id order))

end StatusPage.Store
