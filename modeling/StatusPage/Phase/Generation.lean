import StatusPage.Error
import StatusPage.Text.Blank

/-!
Generations of phases.

`resolveGeneration` decides which generation a listing reads, given the highest one there is, and
`buildGeneration` makes the phases of a new generation from their names, each in the order of its
position.
-/

namespace StatusPage

open Text

/-- The largest number that a generation can have. -/
def lastGeneration : UInt32 := 4294967295

/-- The generation that a request means; none means the highest, which is zero before the first. -/
def resolveGeneration (requested : Option Int) (current : UInt32) : Except Error UInt32 :=
  match requested with
  | none => if current = 0 then .error (.generationNotFound 0) else .ok current
  | some requested =>
    if requested < 1 then .error (.invalid (.generationBelowOne requested))
    else if requested ≤ current.toNat then .ok (UInt32.ofNat requested.toNat)
    else if requested ≤ lastGeneration.toNat then
      .error (.generationNotFound (UInt32.ofNat requested.toNat))
    else .error (.generationNotFound lastGeneration)

/-- The phases with the given names, numbered from `order`. -/
def numberPhases (generation : UInt32) : UInt32 → List String → List Phase
  | _, [] => []
  | order, name :: names => ⟨name, generation, order⟩ :: numberPhases generation (order + 1) names

/-- The phases of a new generation. -/
def buildGeneration (generation : UInt32) (names : List String) : Except Error (List Phase) :=
  if names = [] then .error (.invalid .noPhases)
  else match names.findIdx? blank with
    | some position => .error (.invalid (.blankPhase position))
    | none => .ok (numberPhases generation 0 names)

end StatusPage
