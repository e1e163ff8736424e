import StatusPage.Labels.Selector

/-!
Components: what the page reports on.
-/

namespace StatusPage

open Text

/-- A component. -/
structure Component where
  id : Uuid
  displayName : String
  labels : Labels
  deriving DecidableEq

/-- What a caller gives of a component. -/
structure NewComponent where
  displayName : String
  labels : Labels
  deriving DecidableEq

/-- Refuses a blank name, then a blank label key. -/
def NewComponent.validate (input : NewComponent) : Except Error Unit :=
  if blank input.displayName then .error (.invalid (.blankName .component))
  else input.labels.validate

/-- The component with the given identifier. -/
def NewComponent.withId (input : NewComponent) (id : Uuid) : Component :=
  ⟨id, input.displayName, input.labels⟩

end StatusPage
