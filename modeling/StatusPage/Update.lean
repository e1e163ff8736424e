import StatusPage.Error
import StatusPage.Text.Blank

/-!
Incident updates: the log of what became of an incident.

The updates of one incident are numbered from zero. A new one gets the number after the largest in
use, so a number freed below it is not given again.
-/

namespace StatusPage

open Text

/-- One entry in the log of an incident. -/
structure IncidentUpdate where
  incident : Uuid
  order : UInt32
  displayName : String
  description : String
  createdAt : Instant
  deriving DecidableEq

/-- What a caller gives of an update. -/
structure NewIncidentUpdate where
  displayName : String
  description : String
  deriving DecidableEq

/-- Refuses a blank name. -/
def NewIncidentUpdate.validate (input : NewIncidentUpdate) : Except Error Unit :=
  if blank input.displayName then .error (.invalid (.blankName .update)) else .ok ()

/-- The number of the next update, given the largest in use. -/
def nextOrder (largest : Option UInt32) : UInt32 :=
  match largest with
  | none => 0
  | some largest => largest + 1

end StatusPage
