/-!
Phases.

How far an incident has been resolved is told by a phase. The phases in use are replaced all at
once: each replacement is a new generation, numbered from one, and a phase is a position in one
generation. Incidents name the generation with the position, so a new generation changes none of
them.
-/

namespace StatusPage

/-- A phase as incidents name it: the generation and the position in it. -/
structure PhaseRef where
  generation : UInt32
  order : UInt32
  deriving DecidableEq, Repr

/-- One phase of one generation. -/
structure Phase where
  name : String
  generation : UInt32
  order : UInt32
  deriving DecidableEq, Repr

/-- The name under which incidents refer to a phase. -/
def Phase.ref (phase : Phase) : PhaseRef := ⟨phase.generation, phase.order⟩

end StatusPage
