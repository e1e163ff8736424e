import Mathlib
import StatusPage.Proofs.Store.Effect
import StatusPage.Proofs.Store.Rows

/-!
# Instants in the tables

The instants that a store keeps are those that callers gave with incidents and those at which
updates were created. So a property of all the instants that went in is one of all the instants that
are there: `incidentTimes_run` for those of incidents and `updateTimes_run` for those of updates.
Neither looks at the other kind, and neither asks whether an operation succeeded.
-/

namespace StatusPage.Store

open Text

/-- The instants that an operation gives of an incident have a property. -/
def Operation.TimesIn (p : Instant → Prop) : Operation → Prop
  | .createIncident input => input.TimesIn p
  | .updateIncident _ input => input.TimesIn p
  | _ => True

instance (p : Instant → Prop) [DecidablePred p] :
    (operation : Operation) → Decidable (operation.TimesIn p)
  | .createIncident input => inferInstanceAs (Decidable (input.TimesIn p))
  | .updateIncident _ input => inferInstanceAs (Decidable (input.TimesIn p))
  | .createComponent _ | .getComponent _ | .updateComponent _ _ | .deleteComponent _
  | .listComponents _ | .createImpactType _ | .getImpactType _ | .updateImpactType _ _
  | .deleteImpactType _ | .listImpactTypes | .createSeverity _ | .getSeverity _
  | .updateSeverity _ _ | .deleteSeverity _ | .listSeverities | .currentGeneration | .listPhases _
  | .createGeneration _ | .getIncident _ | .deleteIncident _ | .listIncidents _
  | .affectedComponents _ _ | .affectingIncidents _ _ | .nextUpdateOrder _ | .createUpdate _ _
  | .getUpdate _ _ | .listUpdates _ | .updateUpdate _ _ _ | .deleteUpdate _ _ =>
    inferInstanceAs (Decidable True)

/-- Every incident is kept in its row, and its instants have a property. -/
def IncidentTimes (p : Instant → Prop) (s : Store) : Prop :=
  ∀ row ∈ s.incidents.rows, ∃ i : Incident, row = i.row ∧ i.TimesIn p

/-- Every update is kept in its row, and the instant of its creation has a property. -/
def UpdateTimes (p : Instant → Prop) (s : Store) : Prop :=
  ∀ row ∈ s.updates.rows, ∃ e : IncidentUpdate, row = e.row ∧ p e.createdAt

section

variable {p : Instant → Prop} {s : Store}

theorem IncidentTimes.empty : IncidentTimes p empty := by
  intro row member
  cases member

theorem UpdateTimes.empty : UpdateTimes p empty := by
  intro row member
  cases member

/-- The row that an update is found by is the row of the update at that place. -/
theorem UpdateTimes.exists_of_find (h : UpdateTimes p s) {id : Uuid} {order : UInt32}
    {u : UpdateRow} (found : (s.updates.rows.find? fun u => u.isAt id order) = some u) :
    ∃ e : IncidentUpdate, u = e.row ∧ e.incident = id ∧ e.order = order ∧ p e.createdAt := by
  obtain ⟨e, rfl, created⟩ := h u (List.mem_of_find?_eq_some found)
  have place := List.find?_some found
  simp only [UpdateRow.isAt, IncidentUpdate.row, Bool.and_eq_true, beq_iff_eq, Uuid.text_inj,
    cell32_inj] at place
  exact ⟨e, rfl, place.1, place.2, created⟩

/-! ## One operation -/

theorem IncidentTimes.effect (h : IncidentTimes p s) {m : Moment} {operation : Operation}
    (given : operation.TimesIn p) {o : Outcome operation.Result}
    (done : Effect m s operation o) : IncidentTimes p o.store := by
  cases done with
  | @createIncident input phase =>
    exact forall_insert h ⟨input.withId m.id phase, rfl, given⟩
  | @updateIncident id input old columns accepted admitted found =>
    obtain ⟨i, rfl, -⟩ := h old (List.mem_of_find?_eq_some found)
    exact forall_replace h fun _ _ _ => ⟨_, i.revise_row input, given⟩
  | deleteIncident =>
    intro row member
    rw [mem_filter_rows] at member
    exact h row member.1
  | _ => exact h

theorem UpdateTimes.effect (h : UpdateTimes p s) {m : Moment} (clock : p m.now)
    {operation : Operation} {o : Outcome operation.Result} (done : Effect m s operation o) :
    UpdateTimes p o.store := by
  cases done with
  | createUpdate => exact forall_insert h ⟨_, rfl, clock⟩
  | @updateUpdate id order input old name found =>
    obtain ⟨e, rfl, created⟩ := h old (List.mem_of_find?_eq_some found)
    let next : IncidentUpdate :=
      { e with displayName := input.displayName, description := input.description }
    have kept : ∀ row ∈ (s.updates.map fun u => if u.isAt id order then next.row else u).rows,
        ∃ e : IncidentUpdate, row = e.row ∧ p e.createdAt :=
      forall_replace h fun _ _ _ => ⟨next, rfl, created⟩
    exact kept
  | deleteUpdate =>
    intro row member
    rw [mem_filter_rows] at member
    exact h row member.1
  | deleteIncident =>
    intro row member
    rw [mem_filter_rows] at member
    exact h row member.1
  | _ => exact h

/-! ## Runs -/

theorem incidentTimes_run (h : IncidentTimes p s) {operations : List (Moment × Operation)}
    (given : ∀ step ∈ operations, step.2.TimesIn p) : IncidentTimes p (s.run operations) :=
  run_induction (fun given h done => h.effect given done) h given

theorem updateTimes_run (h : UpdateTimes p s) {operations : List (Moment × Operation)}
    (clock : ∀ step ∈ operations, p step.1.now) : UpdateTimes p (s.run operations) :=
  run_induction (fun clock h done => h.effect clock done) h clock

end

end StatusPage.Store
