import Mathlib
import StatusPage.Proofs.Accepted
import StatusPage.Proofs.Store.Columns
import StatusPage.Store.Operation

/-!
# What an operation can do

`Effect` lists, once and for all operations, what a call can do to the store that it is carried out
on: a read leaves it as it was, so does a write that fails, and each write that goes through has one
way of doing so, with what its checks have made sure of and the store that it leaves. What holds in
every run is shown by going through these cases (`perform_effect`), never by opening an operation
again.
-/

namespace StatusPage.Store

open Text

/-! ## Writes that go through -/

/-- Whether every impact of a list is on a component that exists, of a type that exists and on the
scale. -/
def Admits (s : Store) (impacts : List Impact) : Prop :=
  ∀ impact ∈ impacts, s.hasComponent impact.component = true ∧
    s.hasImpactType impact.impactType = true ∧ impact.severity.toNat ≤ 100

/-- The impacts of a store with those of one incident replaced. -/
def impactsFor (s : Store) (id : Uuid) (impacts : List Impact) : Table ImpactRow :=
  (s.impacts.filter fun m => m.incident ≠ id.text).insertAll (impacts.map (impactRow id))

/-- Whether a row names a phase that exists. -/
def hasPhaseOf (s : Store) (row : IncidentRow) : Bool :=
  s.phases.rows.any fun p => p.generation == row.generation && p.order == row.order

/-- Whether an operation only reads. -/
def Operation.isRead : Operation → Bool
  | .getComponent _ | .listComponents _ | .getImpactType _ | .listImpactTypes | .getSeverity _
  | .listSeverities | .currentGeneration | .listPhases _ | .getIncident _ | .listIncidents _
  | .affectedComponents _ _ | .affectingIncidents _ _ | .nextUpdateOrder _ | .getUpdate _ _
  | .listUpdates _ => true
  | _ => false

/-- What an operation can do at a moment: the outcomes that it can have. -/
inductive Effect (m : Moment) (s : Store) :
    (operation : Operation) → Outcome operation.Result → Prop
  | read {operation : Operation} (reads : operation.isRead = true)
      (answer : Except Fault operation.Result) : Effect m s operation ⟨answer, s⟩
  | failed {operation : Operation} (fault : Fault) : Effect m s operation (.fail s fault)
  | createComponent {input : NewComponent} (name : Visible input.displayName)
      (keys : ∀ p ∈ input.labels.entries, Visible p.1) (fresh : s.hasComponent m.id = false) :
      Effect m s (.createComponent input)
        ⟨.ok (input.withId m.id),
          ({ s with components := s.components.insert ⟨some m.id.text, input.displayName⟩ } :
            Store).setLabels m.id input.labels⟩
  | updateComponent {id : Uuid} {input : NewComponent} (name : Visible input.displayName)
      (keys : ∀ p ∈ input.labels.entries, Visible p.1) (known : s.hasComponent id = true) :
      Effect m s (.updateComponent id input)
        ⟨.ok (input.withId id),
          ({ s with components := s.components.map fun c =>
            if c.id = some id.text then { c with displayName := input.displayName } else c } :
            Store).setLabels id input.labels⟩
  | deleteComponent {id : Uuid}
      (unused : (s.impacts.rows.any fun m => m.component == id.text) = false) :
      Effect m s (.deleteComponent id)
        ⟨.ok (), { s with
          components := s.components.filter fun c => c.id ≠ some id.text
          labels := s.labels.filter fun l => l.component ≠ id.text }⟩
  | createImpactType {input : NewImpactType} (name : Visible input.displayName)
      (fresh : s.hasImpactType m.id = false) :
      Effect m s (.createImpactType input)
        ⟨.ok (input.withId m.id), { s with
          impactTypes :=
            s.impactTypes.insert ⟨some m.id.text, input.displayName, input.description⟩ }⟩
  | updateImpactType {id : Uuid} {input : NewImpactType} (name : Visible input.displayName)
      (known : s.hasImpactType id = true) :
      Effect m s (.updateImpactType id input)
        ⟨.ok (input.withId id), { s with
          impactTypes := s.impactTypes.map fun t =>
            if t.id = some id.text then ⟨t.id, input.displayName, input.description⟩ else t }⟩
  | deleteImpactType {id : Uuid}
      (unused : (s.impacts.rows.any fun m => m.impactType == id.text) = false) :
      Effect m s (.deleteImpactType id)
        ⟨.ok (), { s with impactTypes := s.impactTypes.filter fun t => t.id ≠ some id.text }⟩
  | createSeverity {input : Severity} (name : Visible input.displayName)
      (scale : input.value.toNat ≤ 100)
      (fresh : severityClash? s.severities.rows input = none) :
      Effect m s (.createSeverity input)
        ⟨.ok input, { s with
          severities := s.severities.insert ⟨some input.displayName, cell8 input.value⟩ }⟩
  | updateSeverity {old : String} {input : Severity} (name : Visible input.displayName)
      (scale : input.value.toNat ≤ 100)
      (fresh : severityClash? (s.severities.rows.filter fun r => r.displayName ≠ some old) input =
        none)
      (known : (s.severities.rows.any fun r => r.displayName == some old) = true) :
      Effect m s (.updateSeverity old input)
        ⟨.ok input, { s with
          severities := s.severities.map fun r =>
            if r.displayName = some old then ⟨some input.displayName, cell8 input.value⟩ else r }⟩
  | deleteSeverity {name : String} :
      Effect m s (.deleteSeverity name)
        ⟨.ok (), { s with
          severities := s.severities.filter fun r => r.displayName ≠ some name }⟩
  | createGeneration {names : List String} {current : UInt32} {phases : Table PhaseRow}
      (some_names : names ≠ []) (visible : ∀ name ∈ names, Visible name)
      (highest : s.maxGeneration = .ok current)
      (inserted : insertPhases s.phases (numberPhases (current + 1) 0 names) = .ok phases) :
      Effect m s (.createGeneration names) ⟨.ok (current + 1), { s with phases := phases }⟩
  | createIncident {input : NewIncident} {phase : PhaseRef} (accepted : input.Accepted)
      (admitted : s.Admits input.impacts) (fresh : s.hasIncident m.id = false)
      (exists_phase : s.hasPhase phase = true)
      (chosen : s.initialPhase "create_incident" m.id.text input.phase = .ok phase)
      (order : boundsInOrder input.beganAt.storedText (input.endedAt.map Instant.storedText)) :
      Effect m s (.createIncident input)
        ⟨(input.withId m.id phase).columns.incident, { s with
          incidents := s.incidents.insert (input.withId m.id phase).row
          impacts := s.impactsFor m.id input.impacts }⟩
  | updateIncident {id : Uuid} {input : NewIncident} {old : IncidentRow}
      {columns : IncidentColumns} (accepted : input.Accepted)
      (admitted : s.Admits input.impacts) (found : s.findIncident id = some old)
      (exists_phase : s.hasPhaseOf (old.revise input) = true)
      (written : (old.revise input).columns = .ok columns)
      (order : boundsInOrder input.beganAt.storedText (input.endedAt.map Instant.storedText)) :
      Effect m s (.updateIncident id input)
        ⟨columns.incident, { s with
          incidents := s.incidents.map fun i =>
            if i.id = some id.text then old.revise input else i
          impacts := s.impactsFor id input.impacts }⟩
  | deleteIncident {id : Uuid} :
      Effect m s (.deleteIncident id)
        ⟨.ok (), { s with
          incidents := s.incidents.filter fun i => i.id ≠ some id.text
          impacts := s.impacts.filter fun m => m.incident ≠ id.text
          updates := s.updates.filter fun u => u.incident ≠ id.text }⟩
  | createUpdate {id : Uuid} {input : NewIncidentUpdate} {order : UInt32}
      (name : Visible input.displayName) (known : s.hasIncident id = true)
      (fresh : (s.updates.rows.any fun u => u.isAt id order) = false)
      (allocated : s.allocateOrder id = .ok order) :
      Effect m s (.createUpdate id input)
        ⟨.ok ⟨id, order, input.displayName, input.description, m.now.truncate⟩, { s with
          updates := s.updates.insert
            (IncidentUpdate.mk id order input.displayName input.description m.now).row }⟩
  | updateUpdate {id : Uuid} {order : UInt32} {input : NewIncidentUpdate} {old : UpdateRow}
      (name : Visible input.displayName)
      (found : (s.updates.rows.find? fun u => u.isAt id order) = some old) :
      Effect m s (.updateUpdate id order input)
        ⟨({ old with displayName := input.displayName, description := input.description } :
            UpdateRow).update order.toNat, { s with
          updates := s.updates.map fun u => if u.isAt id order then
            { old with displayName := input.displayName, description := input.description }
          else u }⟩
  | deleteUpdate {id : Uuid} {order : UInt32} :
      Effect m s (.deleteUpdate id order)
        ⟨.ok (), { s with updates := s.updates.filter fun u => !u.isAt id order }⟩

/-! ## Checks in the tables -/

theorem during_ok {α : Type} (operation key : String) (a : α) :
    during operation key (.ok a) = .ok a := rfl

theorem during_ok_iff {α : Type} {operation key : String} {result : Except Cause α} {a : α} :
    during operation key result = .ok a ↔ result = .ok a :=
  mapError_ok_iff

theorem refusing_ok {α : Type} (a : α) : refusing (.ok a) = .ok a := rfl

theorem refusing_ok_iff {α : Type} {result : Except Error α} {a : α} :
    refusing result = .ok a ↔ result = .ok a :=
  mapError_ok_iff

/-- A write that fails is one case, and what it commits otherwise is the other. -/
theorem Outcome.ofWrite_cases {α β : Type} {s : Store} {written : Except Fault (β × Store)}
    {answer : β → Except Fault α} {motive : Outcome α → Prop}
    (failed : ∀ fault, motive (fail s fault))
    (committed : ∀ b next, written = .ok (b, next) → motive ⟨answer b, next⟩) :
    motive (ofWrite s written answer) := by
  cases written with
  | error fault => exact failed fault
  | ok p => exact committed p.1 p.2 rfl

theorem checkImpacts_ok_iff {s : Store} {impacts : List Impact} :
    s.checkImpacts impacts = .ok () ↔ ∀ impact ∈ impacts,
      s.hasComponent impact.component = true ∧ s.hasImpactType impact.impactType = true := by
  induction impacts with
  | nil => simp [checkImpacts]
  | cons impact rest ih =>
    cases component : s.hasComponent impact.component <;>
      cases impactType : s.hasImpactType impact.impactType <;>
      simp [checkImpacts, component, impactType, ih]

theorem checkReferences_ok {s : Store} {input : NewIncident}
    (passed : s.checkReferences input = .ok ()) :
    (∀ phase ∈ input.phase, s.hasPhase phase = true) ∧ s.checkImpacts input.impacts = .ok () := by
  unfold checkReferences at passed
  cases given : input.phase with
  | none => exact ⟨by simp, by simpa [given] using passed⟩
  | some phase =>
    simp only [given] at passed
    split at passed
    · next known => exact ⟨by simpa using known, passed⟩
    · cases passed

theorem between_cell8 (severity : UInt8) :
    (cell8 severity).between 0 100 = true ↔ severity.toNat ≤ 100 := by
  simp [Cell.between, cell8, Cell.le]

/-- Impacts go in all together, and only if all are on the scale. -/
theorem insertImpacts_ok {blocked : Bool} {id : Uuid} {table next : Table ImpactRow}
    {impacts : List Impact} (inserted : insertImpacts blocked id table impacts = .ok next) :
    (∀ impact ∈ impacts, impact.severity.toNat ≤ 100) ∧
      next = table.insertAll (impacts.map (impactRow id)) := by
  induction impacts generalizing table with
  | nil =>
    cases inserted
    exact ⟨by simp, rfl⟩
  | cons impact rest ih =>
    simp only [insertImpacts] at inserted
    split at inserted
    · cases inserted
    · split at inserted
      · next scale =>
        obtain ⟨others, rfl⟩ := ih inserted
        have first := (between_cell8 impact.severity).1 scale
        refine ⟨?_, rfl⟩
        intro other member
        rcases List.mem_cons.1 member with rfl | member
        · exact first
        · exact others other member
      · cases inserted

theorem replaceImpacts_ok {s next : Store} {id : Uuid} {impacts : List Impact}
    (replaced : s.replaceImpacts id impacts = .ok next) :
    (∀ impact ∈ impacts, impact.severity.toNat ≤ 100) ∧
      next = { s with impacts := s.impactsFor id impacts } := by
  obtain ⟨table, inserted, rfl⟩ := map_ok_iff.1 replaced
  obtain ⟨scale, rfl⟩ := insertImpacts_ok inserted
  exact ⟨scale, rfl⟩

theorem insertIncident_ok {s next : Store} {row : IncidentRow} {id : Uuid}
    (key : row.id = some id.text) (inserted : s.insertIncident row = .ok next) :
    s.hasIncident id = false ∧ s.hasPhaseOf row = true ∧
      boundsInOrder row.beganAt row.endedAt = true ∧
      next = { s with incidents := s.incidents.insert row } := by
  unfold insertIncident at inserted
  split at inserted
  · cases inserted
  · next order =>
    split at inserted
    · cases inserted
    · next fresh =>
      split at inserted
      · next known =>
        cases inserted
        refine ⟨?_, known, by simpa using order, rfl⟩
        rw [Bool.not_eq_true, key] at fresh
        rw [hasIncident, ← fresh]
        congr 1
        funext i
        cases same : i.id <;> simp
      · cases inserted

theorem reviseIncident_ok {s next : Store} {id : Uuid} {row : IncidentRow}
    (revised : s.reviseIncident id row = .ok next) :
    s.hasPhaseOf row = true ∧ boundsInOrder row.beganAt row.endedAt = true ∧ next = { s with
      incidents := s.incidents.map fun i => if i.id = some id.text then row else i } := by
  unfold reviseIncident at revised
  split at revised
  · cases revised
  · next order =>
    split at revised
    · next known =>
      cases revised
      exact ⟨known, by simpa using order, rfl⟩
    · cases revised

/-! ## The outcomes of each operation -/

variable (m : Moment) (s : Store)

theorem createComponent_effect (input : NewComponent) :
    Effect m s (.createComponent input) (s.createComponent m.id input) := by
  unfold Store.createComponent
  split
  · exact .failed _
  · next passed =>
    obtain ⟨name, keys⟩ := NewComponent.validate_ok_iff.1 passed
    split
    · exact .failed _
    · next fresh => exact .createComponent name keys (by simpa using fresh)

theorem updateComponent_effect (id : Uuid) (input : NewComponent) :
    Effect m s (.updateComponent id input) (s.updateComponent id input) := by
  unfold Store.updateComponent
  split
  · exact .failed _
  · next passed =>
    obtain ⟨name, keys⟩ := NewComponent.validate_ok_iff.1 passed
    split
    · next known => exact .updateComponent name keys known
    · exact .failed _

theorem deleteComponent_effect (id : Uuid) :
    Effect m s (.deleteComponent id) (s.deleteComponent id) := by
  unfold Store.deleteComponent
  split
  · split
    · exact .failed _
    · next unused => exact .deleteComponent (by simpa using unused)
  · exact .failed _

theorem createImpactType_effect (input : NewImpactType) :
    Effect m s (.createImpactType input) (s.createImpactType m.id input) := by
  unfold Store.createImpactType
  split
  · exact .failed _
  · next passed =>
    split
    · exact .failed _
    · next fresh =>
      exact .createImpactType (NewImpactType.validate_ok_iff.1 passed) (by simpa using fresh)

theorem updateImpactType_effect (id : Uuid) (input : NewImpactType) :
    Effect m s (.updateImpactType id input) (s.updateImpactType id input) := by
  unfold Store.updateImpactType
  split
  · exact .failed _
  · next passed =>
    split
    · next known => exact .updateImpactType (NewImpactType.validate_ok_iff.1 passed) known
    · exact .failed _

theorem deleteImpactType_effect (id : Uuid) :
    Effect m s (.deleteImpactType id) (s.deleteImpactType id) := by
  unfold Store.deleteImpactType
  split
  · split
    · exact .failed _
    · next unused => exact .deleteImpactType (by simpa using unused)
  · exact .failed _

theorem createSeverity_effect (input : Severity) :
    Effect m s (.createSeverity input) (s.createSeverity input) := by
  unfold Store.createSeverity
  split
  · exact .failed _
  · next passed =>
    obtain ⟨name, scale, rfl⟩ := Severity.make_ok_iff.1 passed
    split
    · exact .failed _
    · next fresh => exact .createSeverity name scale fresh

theorem updateSeverity_effect (old : String) (input : Severity) :
    Effect m s (.updateSeverity old input) (s.updateSeverity old input) := by
  unfold Store.updateSeverity
  split
  · exact .failed _
  · next passed =>
    obtain ⟨name, scale, rfl⟩ := Severity.make_ok_iff.1 passed
    split
    · next known =>
      dsimp only
      split
      · exact .failed _
      · next fresh => exact .updateSeverity name scale fresh known
    · exact .failed _

theorem deleteSeverity_effect (name : String) :
    Effect m s (.deleteSeverity name) (s.deleteSeverity name) := by
  unfold Store.deleteSeverity
  split
  · exact .deleteSeverity
  · exact .failed _

theorem createGeneration_effect (names : List String) :
    Effect m s (.createGeneration names) (s.createGeneration names) := by
  unfold Store.createGeneration
  refine Outcome.ofWrite_cases (motive := Effect m s (.createGeneration names)) .failed ?_
  intro next table written
  simp only [bind_ok_iff, refusing_ok_iff, during_ok_iff, buildGeneration_ok_iff] at written
  obtain ⟨-, ⟨some_names, visible, -⟩, current, highest, phases, ⟨-, -, rfl⟩, rows, inserted,
    same⟩ := written
  cases same
  exact .createGeneration some_names visible highest inserted

theorem admits_of_checks {s : Store} {impacts : List Impact}
    (checked : s.checkImpacts impacts = .ok ())
    (scale : ∀ impact ∈ impacts, impact.severity.toNat ≤ 100) : s.Admits impacts := by
  intro impact member
  obtain ⟨component, impactType⟩ := checkImpacts_ok_iff.1 checked impact member
  exact ⟨component, impactType, scale impact member⟩

theorem createIncident_effect (input : NewIncident) :
    Effect m s (.createIncident input) (s.createIncident m.id input) := by
  unfold Store.createIncident
  refine Outcome.ofWrite_cases (motive := Effect m s (.createIncident input)) .failed ?_
  intro columns next written
  simp only [bind_ok_iff, refusing_ok_iff, during_ok_iff] at written
  obtain ⟨_, passed, _, references, phase, chosen, middle, inserted, last, replaced, read,
    columns_read, same⟩ := written
  cases same
  obtain ⟨fresh, exists_phase, order, rfl⟩ := insertIncident_ok rfl inserted
  obtain ⟨scale, rfl⟩ := replaceImpacts_ok replaced
  have admitted := admits_of_checks (checkReferences_ok references).2 scale
  cases columns_read
  exact .createIncident (NewIncident.validate_ok_iff.1 passed) admitted fresh exists_phase chosen
    order

theorem updateIncident_effect (id : Uuid) (input : NewIncident) :
    Effect m s (.updateIncident id input) (s.updateIncident id input) := by
  unfold Store.updateIncident
  refine Outcome.ofWrite_cases (motive := Effect m s (.updateIncident id input)) .failed ?_
  intro columns next written
  rw [bind_ok_iff] at written
  obtain ⟨_, passed, written⟩ := written
  rw [refusing_ok_iff] at passed
  split at written
  · cases written
  · next old found =>
    simp only [bind_ok_iff, refusing_ok_iff, during_ok_iff] at written
    obtain ⟨_, references, middle, revised, last, replaced, read, columns_read, same⟩ := written
    cases same
    obtain ⟨exists_phase, order, rfl⟩ := reviseIncident_ok revised
    obtain ⟨scale, rfl⟩ := replaceImpacts_ok replaced
    have admitted := admits_of_checks (checkReferences_ok references).2 scale
    exact .updateIncident (NewIncident.validate_ok_iff.1 passed) admitted found exists_phase
      columns_read order

theorem deleteIncident_effect (id : Uuid) :
    Effect m s (.deleteIncident id) (s.deleteIncident id) := by
  unfold Store.deleteIncident
  split
  · exact .deleteIncident
  · exact .failed _

theorem createUpdate_effect (id : Uuid) (input : NewIncidentUpdate) :
    Effect m s (.createUpdate id input) (s.createUpdate m.now id input) := by
  unfold Store.createUpdate
  refine Outcome.ofWrite_cases (motive := Effect m s (.createUpdate id input)) .failed ?_
  intro order next written
  simp only [bind_ok_iff, unless_ok_iff, refusing_ok_iff, during_ok_iff,
    Bool.not_eq_true] at written
  obtain ⟨_, passed, known, order, allocated, fresh, same⟩ := written
  cases same
  exact .createUpdate (NewIncidentUpdate.validate_ok_iff.1 passed) (by simpa using known) fresh
    allocated

theorem updateUpdate_effect (id : Uuid) (order : UInt32) (input : NewIncidentUpdate) :
    Effect m s (.updateUpdate id order input) (s.updateUpdate id order input) := by
  unfold Store.updateUpdate
  refine Outcome.ofWrite_cases (motive := Effect m s (.updateUpdate id order input)) .failed ?_
  intro row next written
  rw [bind_ok_iff] at written
  obtain ⟨_, passed, written⟩ := written
  rw [refusing_ok_iff] at passed
  split at written
  · cases written
  · next old found =>
    cases written
    exact .updateUpdate (NewIncidentUpdate.validate_ok_iff.1 passed) found

theorem deleteUpdate_effect (id : Uuid) (order : UInt32) :
    Effect m s (.deleteUpdate id order) (s.deleteUpdate id order) := by
  unfold Store.deleteUpdate
  split
  · exact .deleteUpdate
  · exact .failed _

/-- Whatever an operation does is one of the cases. -/
theorem perform_effect (operation : Operation) :
    Effect m s operation (operation.perform m s) := by
  cases operation with
  | createComponent input => exact createComponent_effect m s input
  | updateComponent id input => exact updateComponent_effect m s id input
  | deleteComponent id => exact deleteComponent_effect m s id
  | createImpactType input => exact createImpactType_effect m s input
  | updateImpactType id input => exact updateImpactType_effect m s id input
  | deleteImpactType id => exact deleteImpactType_effect m s id
  | createSeverity input => exact createSeverity_effect m s input
  | updateSeverity name input => exact updateSeverity_effect m s name input
  | deleteSeverity name => exact deleteSeverity_effect m s name
  | createGeneration names => exact createGeneration_effect m s names
  | createIncident input => exact createIncident_effect m s input
  | updateIncident id input => exact updateIncident_effect m s id input
  | deleteIncident id => exact deleteIncident_effect m s id
  | createUpdate id input => exact createUpdate_effect m s id input
  | updateUpdate id order input => exact updateUpdate_effect m s id order input
  | deleteUpdate id order => exact deleteUpdate_effect m s id order
  | _ => exact .read rfl _

/-- What every allowed step keeps, whichever of its outcomes it has, holds after every run of such
steps. -/
theorem run_induction {allowed : Moment × Operation → Prop} {invariant : Store → Prop}
    (kept : ∀ {m : Moment} {s : Store} {operation : Operation} {o : Outcome operation.Result},
      allowed (m, operation) → invariant s → Effect m s operation o → invariant o.store)
    {s : Store} (start : invariant s) {operations : List (Moment × Operation)}
    (all : ∀ step ∈ operations, allowed step) : invariant (s.run operations) := by
  induction operations generalizing s with
  | nil => exact start
  | cons step rest ih =>
    have first := all step List.mem_cons_self
    have others : ∀ step ∈ rest, allowed step :=
      fun step later => all step (List.mem_cons_of_mem _ later)
    exact ih (kept first start (perform_effect step.1 s step.2)) others

end StatusPage.Store
