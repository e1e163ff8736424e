import StatusPage.Error
import StatusPage.Text.Blank

/-!
Impact types: the kinds of effect that an incident has on a component.
-/

namespace StatusPage

open Text

/-- A kind of effect, such as an outage. -/
structure ImpactType where
  id : Uuid
  displayName : String
  description : String
  deriving DecidableEq

/-- What a caller gives of an impact type. -/
structure NewImpactType where
  displayName : String
  description : String
  deriving DecidableEq

/-- Refuses a blank name. -/
def NewImpactType.validate (input : NewImpactType) : Except Error Unit :=
  if blank input.displayName then .error (.invalid (.blankName .impactType)) else .ok ()

/-- The impact type with the given identifier. -/
def NewImpactType.withId (input : NewImpactType) (id : Uuid) : ImpactType :=
  ⟨id, input.displayName, input.description⟩

end StatusPage
