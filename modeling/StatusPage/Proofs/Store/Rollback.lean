import Mathlib
import StatusPage.Proofs.Instant.SignedYears
import StatusPage.Proofs.Store.LastWrite

/-!
# Failed writes

A write that fails leaves the store as it was. Most failures come before anything is committed; the
ones that could come after, when the answer is read back from the row that was written, do not
happen while all years have four digits (`Effect.store_eq_of_error`). `failed_operation_keeps_store`
says so of every run, and of an update of an incident whose impacts fail half-way through.
-/

namespace StatusPage.Store

open Text

/-! ## One operation -/

variable {s : Store}

/-- An operation that answers with a fault has left the store alone. -/
theorem Effect.store_eq_of_error (times : s.IncidentTimes Instant.FourDigitYear)
    (updates : s.UpdateTimes Instant.FourDigitYear) {m : Moment} {operation : Operation}
    (given : operation.TimesIn Instant.FourDigitYear) {o : Outcome operation.Result}
    (done : Effect m s operation o) {fault : Fault} (failed : o.answer = .error fault) :
    o.store = s := by
  cases done with
  | read => rfl
  | failed => rfl
  | @createIncident input phase =>
    have answer : (input.withId m.id phase).columns.incident =
        .ok (input.withId m.id phase).kept := Incident.incident_columns given
    rw [answer] at failed
    cases failed
  | updateIncident accepted admitted found exists_phase written order =>
    obtain ⟨i, -, -, answer⟩ := times.incident_of_revise given found written
    rw [answer] at failed
    cases failed
  | @updateUpdate id order input old name found =>
    obtain ⟨e, rfl, -, rfl, year⟩ := updates.exists_of_find found
    have answer := IncidentUpdate.update_row
      (u := { e with displayName := input.displayName, description := input.description }) year
    have clash := answer.symm.trans failed
    cases clash
  | _ => cases failed

/-! ## An update that fails half-way -/

theorem insertImpacts_append (blocked : Bool) (id : Uuid) (table : Table ImpactRow)
    (first rest : List Impact) :
    insertImpacts blocked id table (first ++ rest) =
      insertImpacts blocked id table first >>= fun next => insertImpacts blocked id next rest := by
  induction first generalizing table with
  | nil => rfl
  | cons impact others ih =>
    simp only [List.cons_append, insertImpacts]
    split
    · rfl
    · split
      · exact ih _
      · rfl

theorem insertImpacts_of_scale {id : Uuid} {table : Table ImpactRow} {impacts : List Impact}
    (scale : ∀ impact ∈ impacts, impact.severity.toNat ≤ 100) :
    insertImpacts false id table impacts = .ok (table.insertAll (impacts.map (impactRow id))) := by
  induction impacts generalizing table with
  | nil => rfl
  | cons impact rest ih =>
    have first := (between_cell8 impact.severity).2 (scale impact List.mem_cons_self)
    have others := fun other later => scale other (List.mem_cons_of_mem _ later)
    rw [insertImpacts, if_neg Bool.false_ne_true, if_pos first, ih others]
    rfl

/-- Impacts on the scale replace those that an incident had. -/
theorem replaceImpacts_of_scale {s : Store} (unblocked : s.impactsBlocked = false)
    {impacts : List Impact} (scale : ∀ impact ∈ impacts, impact.severity.toNat ≤ 100) (id : Uuid) :
    s.replaceImpacts id impacts = .ok { s with impacts := s.impactsFor id impacts } := by
  rw [replaceImpacts, unblocked, insertImpacts_of_scale scale]
  rfl

theorem insertImpacts_of_bad {id : Uuid} {table : Table ImpactRow} {before after : List Impact}
    {bad : Impact} (scale : ∀ impact ∈ before, impact.severity.toNat ≤ 100)
    (off : 100 < bad.severity.toNat) :
    insertImpacts false id table (before ++ bad :: after) = .error (.check severityRule) := by
  have refused : ¬ (cell8 bad.severity).between 0 100 = true := by
    rw [between_cell8]
    omega
  rw [insertImpacts_append, insertImpacts_of_scale scale, ok_bind, insertImpacts,
    if_neg Bool.false_ne_true, if_neg refused]

/-- In years of four digits a window is in order as texts exactly if it is in order as it is
kept. -/
theorem boundsInOrder_iff {input : NewIncident} (given : input.TimesIn Instant.FourDigitYear) :
    boundsInOrder input.beganAt.storedText (input.endedAt.map Instant.storedText) = true ↔
      ¬ input.Crossed := by
  rw [NewIncident.not_crossed]
  cases end_given : input.endedAt with
  | none => simp [boundsInOrder]
  | some ended =>
    have texts := Instant.storedText_le_iff given.1 (given.2 ended end_given)
    simp [boundsInOrder, texts]

/-- A window that is accepted is kept in order, if leap seconds lie at the end of a minute. -/
theorem not_crossed_of_accepted {input : NewIncident} (accepted : input.Accepted)
    (regular : input.TimesIn Instant.Regular) : ¬ input.Crossed := by
  rw [NewIncident.not_crossed]
  intro ended end_given
  rw [Instant.kept_of_regular regular.1, Instant.kept_of_regular (regular.2 ended end_given)]
  exact Instant.truncate_le_truncate (accepted.window ended end_given)

/-- The row of an incident takes the place of an old one if its window is in order. -/
theorem reviseIncident_of_phase {i : Incident} (phase : s.hasPhase i.phase = true) :
    s.reviseIncident i.id i.row =
      if boundsInOrder i.row.beganAt i.row.endedAt then
        .ok { s with
          incidents := s.incidents.map fun row => if row.id = some i.id.text then i.row else row }
      else .error (.check windowRule) := by
  have known : (s.phases.rows.any fun p =>
      p.generation == i.row.generation && p.order == i.row.order) = true := phase
  rw [reviseIncident, known]
  cases boundsInOrder i.row.beganAt i.row.endedAt <;> rfl

/-- The fields of an incident can be replaced by those of any content that passes the checks and is
kept in order. -/
theorem Consistent.reviseIncident_eq (h : s.Consistent) {id : Uuid} {input : NewIncident}
    {old : IncidentRow} (given : input.TimesIn Instant.FourDigitYear) (order : ¬ input.Crossed)
    (references : s.checkReferences input = .ok ()) (found : s.findIncident id = some old) :
    s.reviseIncident id (old.revise input) = .ok { s with
      incidents := s.incidents.map fun i =>
        if i.id = some id.text then old.revise input else i } := by
  obtain ⟨i, rfl, rfl, old_phase⟩ := h.exists_of_findIncident found
  have phase : s.hasPhase (input.phase.getD i.phase) = true := by
    cases phase_given : input.phase with
    | none => exact old_phase
    | some phase => exact (checkReferences_ok references).1 phase phase_given
  rw [i.revise_row]
  exact (reviseIncident_of_phase (i := input.withId i.id (input.phase.getD i.phase)) phase).trans
    (if_pos ((boundsInOrder_iff given).2 order))

/-- An update with an impact off the scale has replaced the fields of the incident and written the
impacts before that one when it fails. None of this is left. -/
theorem Consistent.updateIncident_of_bad (h : s.Consistent) {id : Uuid} {input : NewIncident}
    {old : IncidentRow} {before after : List Impact} {bad : Impact}
    (given : input.TimesIn Instant.FourDigitYear) (regular : input.TimesIn Instant.Regular)
    (passed : input.validate = .ok ()) (references : s.checkReferences input = .ok ())
    (found : s.findIncident id = some old)
    (impacts : input.impacts = before ++ bad :: after)
    (scale : ∀ impact ∈ before, impact.severity.toNat ≤ 100) (off : 100 < bad.severity.toNat) :
    ∃ revised half, s.reviseIncident id (old.revise input) = .ok revised ∧
      revised.replaceImpacts id before = .ok half ∧
      s.updateIncident id input =
        .fail s (.failed "update_incident" id.text (.check severityRule)) := by
  have order := not_crossed_of_accepted (NewIncident.validate_ok_iff.1 passed) regular
  have revised := h.reviseIncident_eq given order references found
  generalize middle_eq : ({ s with
    incidents := s.incidents.map fun i =>
      if i.id = some id.text then old.revise input else i } : Store) = middle at revised
  have unblocked : middle.impactsBlocked = false := by
    rw [← middle_eq]
    exact h.unblocked
  have half := replaceImpacts_of_scale unblocked scale id
  have refused : middle.replaceImpacts id input.impacts = .error (.check severityRule) := by
    rw [Store.replaceImpacts, unblocked, impacts, insertImpacts_of_bad scale off]
    rfl
  refine ⟨middle, _, revised, half, ?_⟩
  rw [Store.updateIncident, passed, references, found]
  simp only [refusing_ok, ok_bind, revised, during_ok, refused]
  rfl

/-! ## Runs -/

/-- After operations with instants and clocks in years of four digits, an operation with such
instants that answers with a fault has changed no table. An update of an incident that fails at one
of its impacts, after the new fields and the impacts before it went in, is a case of this: it comes
that far if its leap seconds lie at the end of a minute, as then the new window is kept in order. -/
theorem failed_operation_keeps_store {operations : List (Moment × Operation)}
    (given : ∀ step ∈ operations, step.2.TimesIn Instant.FourDigitYear)
    (clock : ∀ step ∈ operations, step.1.now.FourDigitYear) :
    (∀ (m : Moment) (operation : Operation) (fault : Fault),
      operation.TimesIn Instant.FourDigitYear →
      (operation.perform m (empty.run operations)).answer = .error fault →
      (operation.perform m (empty.run operations)).store = empty.run operations) ∧
    ∀ (id : Uuid) (input : NewIncident) (old : IncidentRow) (before after : List Impact)
      (bad : Impact), input.TimesIn Instant.FourDigitYear → input.TimesIn Instant.Regular →
      input.validate = .ok () →
      (empty.run operations).checkReferences input = .ok () →
      (empty.run operations).findIncident id = some old →
      input.impacts = before ++ bad :: after →
      (∀ impact ∈ before, impact.severity.toNat ≤ 100) → 100 < bad.severity.toNat →
      ∃ revised half,
        (empty.run operations).reviseIncident id (old.revise input) = .ok revised ∧
        revised.replaceImpacts id before = .ok half ∧
        (empty.run operations).updateIncident id input = .fail (empty.run operations)
          (.failed "update_incident" id.text (.check severityRule)) := by
  have consistent := consistent_run .empty operations
  have times := incidentTimes_run .empty given
  have updates := updateTimes_run .empty clock
  constructor
  · intro m operation fault dated failed
    exact (perform_effect m _ operation).store_eq_of_error times updates dated failed
  · intro id input old before after bad dated regular passed references found impacts scale off
    exact consistent.updateIncident_of_bad dated regular passed references found impacts scale off

/-- The outage keeps what it had when a second impact of it is off the scale. -/
theorem failed_operation_keeps_store_in_outage :
    let worse : NewIncident :=
      { outageContent with
        displayName := "Worse"
        impacts := [⟨Uuid.ofNat 1, Uuid.ofNat 2, 50⟩, ⟨Uuid.ofNat 1, Uuid.ofNat 4, 101⟩] }
    (∀ step ∈ outage, step.2.TimesIn Instant.FourDigitYear) ∧
      (∀ step ∈ outage, step.1.now.FourDigitYear) ∧
      ((Operation.updateIncident (Uuid.ofNat 3) worse).perform (momentOf 5)
        (empty.run outage)).store = empty.run outage ∧
      ∃ old revised half, (empty.run outage).findIncident (Uuid.ofNat 3) = some old ∧
        (empty.run outage).reviseIncident (Uuid.ofNat 3) (old.revise worse) = .ok revised ∧
        revised.replaceImpacts (Uuid.ofNat 3) [⟨Uuid.ofNat 1, Uuid.ofNat 2, 50⟩] = .ok half := by
  intro worse
  have given : ∀ step ∈ outage, step.2.TimesIn Instant.FourDigitYear := by decide
  have clock : ∀ step ∈ outage, step.1.now.FourDigitYear := by decide
  have dated : worse.TimesIn Instant.FourDigitYear := by decide
  have found : ((empty.run outage).findIncident (Uuid.ofNat 3)).isSome = true := by decide
  obtain ⟨old, found⟩ := Option.isSome_iff_exists.1 found
  obtain ⟨keeps, half_way⟩ := failed_operation_keeps_store given clock
  obtain ⟨revised, half, fields, impacts, answer⟩ := half_way (Uuid.ofNat 3) worse old
    [⟨Uuid.ofNat 1, Uuid.ofNat 2, 50⟩] [] ⟨Uuid.ofNat 1, Uuid.ofNat 4, 101⟩ dated (by decide)
    (by decide) (by decide) found rfl (by decide) (by decide)
  have failed := congrArg Outcome.answer answer
  exact ⟨given, clock, keeps (momentOf 5) (.updateIncident (Uuid.ofNat 3) worse) _ dated failed,
    old, revised, half, found, fields, impacts⟩

end StatusPage.Store
