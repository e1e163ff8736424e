import StatusPage.Json.Records

/-!
Views: how the page shows its entities.

A component is shown with the incidents that affect it, an incident with the components that it
affects and the numbers of its updates. A phase is shown as the pair that the incident names, never
by the name of the phase.
-/

namespace StatusPage

/-- One impact as seen from one of its ends: `reference` is the entity at the other end. -/
structure ImpactRef where
  reference : Uuid
  impactType : Uuid
  severity : UInt8
  deriving DecidableEq

/-- A component as it is shown. -/
structure ComponentView where
  id : Uuid
  displayName : String
  labels : Labels
  affectedBy : List ImpactRef
  deriving DecidableEq

/-- An incident as it is shown. -/
structure IncidentView where
  id : Uuid
  displayName : String
  description : String
  beganAt : Instant
  endedAt : Option Instant
  phase : PhaseRef
  affects : List ImpactRef
  updates : List UInt32
  deriving DecidableEq

/-- An impact as the incident sees it. -/
def Impact.ref (m : Impact) : ImpactRef := ⟨m.component, m.impactType, m.severity⟩

/-- An impact as the component sees it. -/
def AffectingIncident.ref (m : AffectingIncident) : ImpactRef :=
  ⟨m.incident, m.impactType, m.severity⟩

/-- A component with the incidents that affect it. -/
def Component.view (c : Component) (affectedBy : List AffectingIncident) : ComponentView :=
  ⟨c.id, c.displayName, c.labels, affectedBy.map AffectingIncident.ref⟩

/-- An incident with the components that it affects and its updates. -/
def Incident.view (i : Incident) (affects : List Impact) (updates : List IncidentUpdate) :
    IncidentView :=
  ⟨i.id, i.displayName, i.description, i.beganAt, i.endedAt, i.phase, affects.map Impact.ref,
    updates.map (·.order)⟩

namespace Json.Codec

open Fields RecordField

def impactRef : Codec ImpactRef :=
  (cons (required "reference" uuid) <| cons (required "type" uuid) <|
    cons (required "severity" uint8) nil).codec
    (fun m => (m.reference, m.impactType, m.severity, ()))
    (fun (reference, impactType, severity, ()) => ⟨reference, impactType, severity⟩)

def componentView : Codec ComponentView :=
  (cons (required "id" uuid) <| cons (required "displayName" string) <|
    cons (required "labels" labels) <| cons (required "affectedBy" (list impactRef)) nil).codec
    (fun c => (c.id, c.displayName, c.labels, c.affectedBy, ()))
    (fun (id, displayName, labels, affectedBy, ()) => ⟨id, displayName, labels, affectedBy⟩)

def incidentView : Codec IncidentView :=
  (cons (required "id" uuid) <| cons (required "displayName" string) <|
    cons (required "description" string) <| cons (required "beganAt" instant) <|
    cons (optional "endedAt" instant) <| cons (required "phase" phaseRef) <|
    cons (required "affects" (list impactRef)) <|
    cons (required "updates" (list uint32)) nil).codec
    (fun i => (i.id, i.displayName, i.description, i.beganAt, i.endedAt, i.phase, i.affects,
      i.updates, ()))
    (fun (id, displayName, description, beganAt, endedAt, phase, affects, updates, ()) =>
      ⟨id, displayName, description, beganAt, endedAt, phase, affects, updates⟩)

end Json.Codec

end StatusPage
