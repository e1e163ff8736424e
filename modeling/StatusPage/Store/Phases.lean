import StatusPage.Phase.Generation
import StatusPage.Store.Tables

/-!
Phases in the store.

The rows of a generation are written together and never changed. The highest generation is the
current one.
-/

namespace StatusPage.Store

/-- The highest generation, or zero before the first. -/
def maxGeneration (s : Store) : Except Cause UInt32 :=
  match Cell.largest? (s.phases.rows.map (·.generation)) with
  | none => .ok 0
  | some cell => (intColumn 0 "MAX(generation)" cell).map lowBits

/-- Whether there is such a phase. -/
def hasPhase (s : Store) (phase : PhaseRef) : Bool :=
  s.phases.rows.any fun p =>
    p.generation == cell32 phase.generation && p.order == cell32 phase.order

/-- The names of a generation in order. -/
def phaseNames (s : Store) (generation : UInt32) : List String :=
  ((s.phases.rows.filter fun p => p.generation == cell32 generation).mergeSort fun a b =>
    a.order.le b.order).map (·.name)

/-- The highest generation, or zero before the first. -/
def currentGeneration (s : Store) : Except Fault UInt32 :=
  during "current_generation" "" s.maxGeneration

/-- The names of the requested generation, or of the current one, in order. -/
def listPhases (s : Store) (requested : Option Int) : Except Fault (List String) := do
  let key := requested.elim "current" Text.integer
  let current ← during "list_phases" key s.maxGeneration
  let generation ← refusing (resolveGeneration requested current)
  return s.phaseNames generation

/-- The row of a phase. -/
def phaseRow (phase : Phase) : PhaseRow :=
  ⟨cell32 phase.generation, cell32 phase.order, phase.name⟩

/-- The rule on generations. -/
def generationRule : String := "generation >= 1"

/-- The table with the rows of new phases, unless one of them is of no generation or is there
already. -/
def insertPhases (table : Table PhaseRow) : List Phase → Except Cause (Table PhaseRow)
  | [] => .ok table
  | phase :: phases =>
    if phase.generation = 0 then .error (.check generationRule)
    else if table.rows.any fun p =>
        p.generation == cell32 phase.generation && p.order == cell32 phase.order then
      .error (.unique ["phases.generation", "phases.ordinal"])
    else insertPhases (table.insert (phaseRow phase)) phases

/-- Creates the next generation from the names of its phases. -/
def createGeneration (s : Store) (names : List String) : Outcome UInt32 :=
  .ofWrite s (do
    let _ ← refusing (buildGeneration 1 names)
    let next := (← during "create_generation" "" s.maxGeneration) + 1
    let phases ← refusing (buildGeneration next names)
    let table ← during "create_generation" "" (insertPhases s.phases phases)
    return (next, { s with phases := table })) .ok

end StatusPage.Store
