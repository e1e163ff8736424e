import StatusPage.Api.Failure
import StatusPage.Api.View
import StatusPage.Store.Updates

/-!
Entities of the store as the page shows them.

A component is shown with the impacts on it, and an incident with its impacts and its updates. The
impacts are those in force at the instant that is asked about, or those of open incidents when none
is. A list is shown only if each of its entries can be.
-/

namespace StatusPage.Api

open Store

/-- A fault of the store as the failure of a request. -/
def reported {α : Type} (found : Except Fault α) : Except Failure α :=
  found.mapError .store

/-- What was found, unless there is no such entity. -/
def present {α : Type} (subject : Subject) (found : Except Fault (Option α)) : Except Failure α :=
  match found with
  | .error fault => .error (.store fault)
  | .ok none => .error (.absent subject)
  | .ok (some a) => .ok a

/-- A component with the impacts on it. -/
def showComponent (s : Store) (t : Option Instant) (c : Component) :
    Except Failure ComponentView :=
  (reported (s.affectingIncidents c.id t)).map c.view

/-- An incident with its impacts and updates. -/
def showIncident (s : Store) (t : Option Instant) (i : Incident) : Except Failure IncidentView := do
  let affects ← reported (s.affectedComponents i.id t)
  let updates ← reported (s.listUpdates i.id)
  return i.view affects updates

/-- The components that a request asks for; without a selector all labels will do. -/
def showComponents (s : Store) (selector : Option String) (affected : Bool) (t : Option Instant) :
    Except Failure (List ComponentView) := do
  let labels ← match selector with
    | some text => reported (refusing (Labels.parseSelector text))
    | none => .ok ∅
  let components ← reported (s.listComponents ⟨labels, affected, t⟩)
  components.mapM (showComponent s t)

/-- The incidents that a request asks for. -/
def showIncidents (s : Store) (active : Bool) (t : Option Instant) :
    Except Failure (List IncidentView) := do
  let incidents ← reported (s.listIncidents ⟨active, t⟩)
  incidents.mapM (showIncident s t)

end StatusPage.Api
