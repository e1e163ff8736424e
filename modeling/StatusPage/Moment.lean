import StatusPage.Instant
import StatusPage.Uuid

/-!
What a step takes from outside.

Nothing in the page reads a clock or draws a number by itself: each step is given the instant at
which it runs and the identifiers that it may draw, in the order in which it draws them.
-/

namespace StatusPage

/-- The instant at which a step runs, and the identifiers that it draws. -/
structure Moment where
  now : Instant
  draw : Nat → Uuid

namespace Moment

/-- The identifier of an entity that a step creates. -/
def id (m : Moment) : Uuid := m.draw 0

end Moment

end StatusPage
