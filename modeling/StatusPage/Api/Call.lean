import StatusPage.Api.Body

/-!
Calls: what a request asks for.

A call is a request once its path, query and body have been read. Selectors, severities and impacts
are still as the caller wrote them, because what is wrong with them is told in an answer of its own.
-/

namespace StatusPage.Api

/-- What a request asks for. -/
inductive Call where
  | listComponents (selector : Option String) (affected : Bool) (instant : Option Instant)
  | createComponent (body : NewComponent)
  | getComponent (id : Uuid) (instant : Option Instant)
  | updateComponent (id : Uuid) (body : NewComponent)
  | deleteComponent (id : Uuid)
  | listImpactTypes
  | createImpactType (body : NewImpactType)
  | getImpactType (id : Uuid)
  | updateImpactType (id : Uuid) (body : NewImpactType)
  | deleteImpactType (id : Uuid)
  | listSeverities
  | createSeverity (body : SeveritySeed)
  | getSeverity (name : String)
  | updateSeverity (name : String) (body : SeveritySeed)
  | deleteSeverity (name : String)
  | listPhases (generation : Option Int)
  | createGeneration (names : List String)
  | currentGeneration
  | listIncidents (active : Bool) (instant : Option Instant)
  | createIncident (body : IncidentBody)
  | getIncident (id : Uuid) (instant : Option Instant)
  | updateIncident (id : Uuid) (body : IncidentBody)
  | deleteIncident (id : Uuid)
  | listUpdates (incident : Uuid)
  | createUpdate (incident : Uuid) (body : NewIncidentUpdate)
  | getUpdate (incident : Uuid) (order : UInt32)
  | updateUpdate (incident : Uuid) (order : UInt32) (body : NewIncidentUpdate)
  | deleteUpdate (incident : Uuid) (order : UInt32)
  deriving DecidableEq

end StatusPage.Api
