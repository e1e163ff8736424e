import StatusPage.Api.View

/-!
Bodies of requests.

A body is read with the spelling of the wire. Numbers that lie off the scale are read all the same
and refused afterwards, so that the refusal can say what is wrong with them.
-/

namespace StatusPage

/-- One impact in the body of an incident. -/
structure ImpactBody where
  reference : Uuid
  impactType : Uuid
  severity : Int
  deriving DecidableEq

/-- The body of an incident. -/
structure IncidentBody where
  displayName : String
  description : String
  beganAt : Instant
  endedAt : Option Instant
  phase : Option PhaseRef
  affects : List ImpactBody
  deriving DecidableEq

/-- The impacts of a body, unless one has a severity off the scale. -/
def impactsOf : List ImpactBody → Except Error (List Impact)
  | [] => .ok []
  | body :: bodies => do
    let first ← Impact.make body.reference body.impactType body.severity
    let others ← impactsOf bodies
    return first :: others

/-- The incident that a body gives, unless a severity is off the scale. -/
def IncidentBody.incident (body : IncidentBody) : Except Error NewIncident :=
  (impactsOf body.affects).map fun impacts =>
    ⟨body.displayName, body.description, body.beganAt, body.endedAt, body.phase, impacts⟩

/-- The severity that a body gives, unless it is off the scale or has a blank name. -/
def SeveritySeed.severity (body : SeveritySeed) : Except Error Severity :=
  Severity.make body.displayName body.value

namespace Json.Codec

open Fields RecordField

def impactBody : Codec ImpactBody :=
  (cons (required "reference" uuid) <| cons (required "type" uuid) <|
    cons (required "severity" int64) nil).codec
    (fun m => (m.reference, m.impactType, m.severity, ()))
    (fun (reference, impactType, severity, ()) => ⟨reference, impactType, severity⟩)

def incidentBody : Codec IncidentBody :=
  (cons (required "displayName" string) <| cons (defaulted "description" string "") <|
    cons (required "beganAt" instant) <| cons (defaulted "endedAt" instant.nullable none) <|
    cons (defaulted "phase" phaseRef.nullable none) <|
    cons (defaulted "affects" (list impactBody) []) nil).codec
    (fun i => (i.displayName, i.description, i.beganAt, i.endedAt, i.phase, i.affects, ()))
    (fun (displayName, description, beganAt, endedAt, phase, affects, ()) =>
      ⟨displayName, description, beganAt, endedAt, phase, affects⟩)

end Json.Codec

end StatusPage
