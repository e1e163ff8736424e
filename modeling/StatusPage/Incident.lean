import StatusPage.Severity

/-!
Incidents, their windows and their impacts.

An incident affects components through its impacts, and these are in force during its window: from
the instant it began up to, but not including, the instant it ended. Without an instant to ask
about, an impact is in force while the incident has not ended.
-/

namespace StatusPage

open Text

/-! ## Windows -/

/-- The time during which the impacts of an incident are in force. -/
structure Window where
  beganAt : Instant
  endedAt : Option Instant
  deriving DecidableEq

namespace Window

/-- Refuses an end before the beginning. -/
def make (beganAt : Instant) (endedAt : Option Instant) : Except Error Window :=
  match endedAt with
  | some ended =>
    if ended < beganAt then .error (.invalid (.endsBeforeBegin ended beganAt))
    else .ok ⟨beganAt, endedAt⟩
  | none => .ok ⟨beganAt, endedAt⟩

/-- Whether an instant lies in the window. -/
def contains (w : Window) (t : Instant) : Bool :=
  decide (w.beganAt ≤ t) && w.endedAt.all fun ended => decide (t < ended)

/-- Whether the window is still open. -/
def isOngoing (w : Window) : Bool :=
  w.endedAt.isNone

/-- Whether the window is active at an instant, or open when none is given. -/
def isActive (w : Window) : Option Instant → Bool
  | some t => w.contains t
  | none => w.isOngoing

end Window

/-! ## Impacts -/

/-- One effect of an incident on a component, seen from the incident. -/
structure Impact where
  component : Uuid
  impactType : Uuid
  severity : UInt8
  deriving DecidableEq

/-- Refuses a severity off the scale. -/
def Impact.make (component impactType : Uuid) (severity : Int) : Except Error Impact :=
  (checkSeverity severity).map fun severity => ⟨component, impactType, severity⟩

/-- One effect of an incident on a component, seen from the component. -/
structure AffectingIncident where
  incident : Uuid
  impactType : Uuid
  severity : UInt8
  deriving DecidableEq

/-! ## Incidents -/

/-- An incident. -/
structure Incident where
  id : Uuid
  displayName : String
  description : String
  beganAt : Instant
  endedAt : Option Instant
  phase : PhaseRef
  deriving DecidableEq

/-- The window of an incident. -/
def Incident.window (i : Incident) : Window := ⟨i.beganAt, i.endedAt⟩

/-- What a caller gives of an incident; the impacts replace all that it had. -/
structure NewIncident where
  displayName : String
  description : String
  beganAt : Instant
  endedAt : Option Instant
  phase : Option PhaseRef
  impacts : List Impact
  deriving DecidableEq

/-- The first impact with the component and type of one in `seen` or before it in the list. -/
def repeatedImpact? (seen : List (Uuid × Uuid)) : List Impact → Option Impact
  | [] => none
  | impact :: rest =>
    if (impact.component, impact.impactType) ∈ seen then some impact
    else repeatedImpact? ((impact.component, impact.impactType) :: seen) rest

/-- Refuses a blank name, then a window that ends before it begins, then a repeated impact. -/
def NewIncident.validate (input : NewIncident) : Except Error Unit := do
  if blank input.displayName then throw (.invalid (.blankName .incident))
  let _ ← Window.make input.beganAt input.endedAt
  match repeatedImpact? [] input.impacts with
  | some impact => throw (.invalid (.impactedTwice impact.component impact.impactType))
  | none => return ()

end StatusPage
