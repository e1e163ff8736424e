import StatusPage.Moment
import StatusPage.Store.Severities
import StatusPage.Store.Updates

/-!
Operations of the store.

An operation is one call with its arguments, and `Operation.Result` is what it answers with when it
succeeds. `Operation.perform` carries it out at a moment. A run carries out operations one after the
other, each at a moment of its own; the stores that runs from the empty one lead to are the
reachable ones.
-/

namespace StatusPage.Store

/-- One call to the store. -/
inductive Operation where
  | createComponent (input : NewComponent)
  | getComponent (id : Uuid)
  | updateComponent (id : Uuid) (input : NewComponent)
  | deleteComponent (id : Uuid)
  | listComponents (query : ComponentQuery)
  | createImpactType (input : NewImpactType)
  | getImpactType (id : Uuid)
  | updateImpactType (id : Uuid) (input : NewImpactType)
  | deleteImpactType (id : Uuid)
  | listImpactTypes
  | createSeverity (input : Severity)
  | getSeverity (name : String)
  | updateSeverity (name : String) (input : Severity)
  | deleteSeverity (name : String)
  | listSeverities
  | currentGeneration
  | listPhases (generation : Option Int)
  | createGeneration (names : List String)
  | createIncident (input : NewIncident)
  | getIncident (id : Uuid)
  | updateIncident (id : Uuid) (input : NewIncident)
  | deleteIncident (id : Uuid)
  | listIncidents (query : IncidentQuery)
  | affectedComponents (id : Uuid) (instant : Option Instant)
  | affectingIncidents (id : Uuid) (instant : Option Instant)
  | nextUpdateOrder (incident : Uuid)
  | createUpdate (incident : Uuid) (input : NewIncidentUpdate)
  | getUpdate (incident : Uuid) (order : UInt32)
  | listUpdates (incident : Uuid)
  | updateUpdate (incident : Uuid) (order : UInt32) (input : NewIncidentUpdate)
  | deleteUpdate (incident : Uuid) (order : UInt32)

namespace Operation

/-- What an operation answers with when it succeeds. -/
abbrev Result : Operation → Type
  | createComponent _ => Component
  | getComponent _ => Option Component
  | updateComponent _ _ => Component
  | deleteComponent _ => Unit
  | listComponents _ => List Component
  | createImpactType _ => ImpactType
  | getImpactType _ => Option ImpactType
  | updateImpactType _ _ => ImpactType
  | deleteImpactType _ => Unit
  | listImpactTypes => List ImpactType
  | createSeverity _ => Severity
  | getSeverity _ => Option Severity
  | updateSeverity _ _ => Severity
  | deleteSeverity _ => Unit
  | listSeverities => List Severity
  | currentGeneration => UInt32
  | listPhases _ => List String
  | createGeneration _ => UInt32
  | createIncident _ => Incident
  | getIncident _ => Option Incident
  | updateIncident _ _ => Incident
  | deleteIncident _ => Unit
  | listIncidents _ => List Incident
  | affectedComponents _ _ => List Impact
  | affectingIncidents _ _ => List AffectingIncident
  | nextUpdateOrder _ => UInt32
  | createUpdate _ _ => IncidentUpdate
  | getUpdate _ _ => Option IncidentUpdate
  | listUpdates _ => List IncidentUpdate
  | updateUpdate _ _ _ => IncidentUpdate
  | deleteUpdate _ _ => Unit

/-- Carries out an operation. -/
def perform (m : Moment) (s : Store) : (operation : Operation) → Outcome operation.Result
  | createComponent input => s.createComponent m.id input
  | getComponent id => .ofRead s (s.getComponent id)
  | updateComponent id input => s.updateComponent id input
  | deleteComponent id => s.deleteComponent id
  | listComponents query => .ofRead s (s.listComponents query)
  | createImpactType input => s.createImpactType m.id input
  | getImpactType id => .ofRead s (s.getImpactType id)
  | updateImpactType id input => s.updateImpactType id input
  | deleteImpactType id => s.deleteImpactType id
  | listImpactTypes => .ofRead s s.listImpactTypes
  | createSeverity input => s.createSeverity input
  | getSeverity name => .ofRead s (s.getSeverity name)
  | updateSeverity name input => s.updateSeverity name input
  | deleteSeverity name => s.deleteSeverity name
  | listSeverities => .ofRead s s.listSeverities
  | currentGeneration => .ofRead s s.currentGeneration
  | listPhases generation => .ofRead s (s.listPhases generation)
  | createGeneration names => s.createGeneration names
  | createIncident input => s.createIncident m.id input
  | getIncident id => .ofRead s (s.getIncident id)
  | updateIncident id input => s.updateIncident id input
  | deleteIncident id => s.deleteIncident id
  | listIncidents query => .ofRead s (s.listIncidents query)
  | affectedComponents id t => .ofRead s (s.affectedComponents id t)
  | affectingIncidents id t => .ofRead s (s.affectingIncidents id t)
  | nextUpdateOrder id => .ofRead s (s.nextUpdateOrder id)
  | createUpdate id input => s.createUpdate m.now id input
  | getUpdate id order => .ofRead s (s.getUpdate id order)
  | listUpdates id => .ofRead s (s.listUpdates id)
  | updateUpdate id order input => s.updateUpdate id order input
  | deleteUpdate id order => s.deleteUpdate id order

end Operation

/-- The store after operations carried out one after the other, each at its moment. -/
def run (s : Store) : List (Moment × Operation) → Store
  | [] => s
  | (m, operation) :: rest => ((operation.perform m s).store).run rest

/-- The stores that operations lead to from the empty one. -/
def Reachable (s : Store) : Prop :=
  ∃ operations, empty.run operations = s

end StatusPage.Store
