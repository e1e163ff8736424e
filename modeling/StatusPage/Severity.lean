import StatusPage.Error
import StatusPage.Text.Blank

/-!
Severities: names for points on a scale from 0 to 100.

A value off the scale is refused, never moved onto it.
-/

namespace StatusPage

open Text

/-- A named point on the scale. -/
structure Severity where
  displayName : String
  value : UInt8
  deriving DecidableEq

/-- The top of the scale. -/
def maxSeverity : Nat := 100

/-- Refuses a value off the scale. -/
def checkSeverity (value : Int) : Except Error UInt8 :=
  if 0 ≤ value ∧ value ≤ maxSeverity then .ok (UInt8.ofNat value.toNat)
  else .error (.invalid (.severityOutside value))

/-- Refuses a blank name, then a value off the scale. -/
def Severity.make (displayName : String) (value : Int) : Except Error Severity :=
  if blank displayName then .error (.invalid (.blankName .severity))
  else (checkSeverity value).map fun value => ⟨displayName, value⟩

end StatusPage
