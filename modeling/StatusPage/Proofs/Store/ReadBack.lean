import Mathlib
import StatusPage.Proofs.Store.Entities
import StatusPage.Proofs.Store.Generations
import StatusPage.Proofs.Store.UpdateOrders

/-!
# Reading what was written

A write that creates or changes an entity answers with the entity, sometimes from the values at hand
and sometimes from the row that it wrote. `Carries` says what the entity is made of: what the caller
gave, and of the rest what the store answered before. `write_reads_back` says of every write of a
run that the entity carries this and that it is saved: it is read back as it was answered, the time
of a new update as it is shown (`Entity.stored`), and nothing else is read otherwise than before.
-/

namespace StatusPage.Store

open Text

/-! ## Writes that save an entity -/

/-- The entity that an operation answers with, if it creates or changes one. -/
def Operation.saved : (operation : Operation) → operation.Result → Option Entity
  | .createComponent _, c => some (.component c)
  | .updateComponent _ _, c => some (.component c)
  | .createImpactType _, t => some (.impactType t)
  | .updateImpactType _ _, t => some (.impactType t)
  | .createSeverity _, v => some (.severity v)
  | .updateSeverity _ _, v => some (.severity v)
  | .createIncident _, i => some (.incident i)
  | .updateIncident _ _, i => some (.incident i)
  | .createUpdate _ _, u => some (.update u)
  | .updateUpdate _ _ _, u => some (.update u)
  | _, _ => none

/-- An entity that a write has answered with, as it is read from then on: the time of a new update
is the one that is shown. -/
def Entity.stored : Entity → Entity
  | .update u => .update { u with createdAt := u.createdAt.settle }
  | entity => entity

theorem Entity.subject_stored (entity : Entity) : entity.stored.subject = entity.subject := by
  cases entity <;> rfl

/-- The name that an operation takes from a severity to give it another one. -/
def Operation.formerName : Operation → Option String
  | .updateSeverity old input => if input.displayName = old then none else some old
  | _ => none

/-- What the entity that an operation answers with is made of: what the caller gave, of instants
what is kept of them, and what the store answered about the rest before. -/
inductive Carries (m : Moment) (s : Store) : Operation → Entity → Prop
  | createComponent {input : NewComponent} :
      Carries m s (.createComponent input) (.component (input.withId m.id))
  | updateComponent {id : Uuid} {input : NewComponent} :
      Carries m s (.updateComponent id input) (.component (input.withId id))
  | createImpactType {input : NewImpactType} :
      Carries m s (.createImpactType input) (.impactType (input.withId m.id))
  | updateImpactType {id : Uuid} {input : NewImpactType} :
      Carries m s (.updateImpactType id input) (.impactType (input.withId id))
  | createSeverity {input : Severity} : Carries m s (.createSeverity input) (.severity input)
  | updateSeverity {old : String} {input : Severity} :
      Carries m s (.updateSeverity old input) (.severity input)
  | createIncident {input : NewIncident} {current : UInt32}
      (highest : s.currentGeneration = .ok current)
      (started : input.phase = none → current ≠ 0) :
      Carries m s (.createIncident input)
        (.incident (input.withId m.id (input.phase.getD ⟨current, 0⟩)).kept)
  | updateIncident {id : Uuid} {input : NewIncident} {old : Incident}
      (before : s.getIncident id = .ok (some old)) :
      Carries m s (.updateIncident id input)
        (.incident (input.withId id (input.phase.getD old.phase)).kept)
  | createUpdate {id : Uuid} {input : NewIncidentUpdate} {order : UInt32}
      (next : s.nextUpdateOrder id = .ok order) :
      Carries m s (.createUpdate id input)
        (.update ⟨id, order, input.displayName, input.description, m.now.truncate⟩)
  | updateUpdate {id : Uuid} {order : UInt32} {input : NewIncidentUpdate} {old : IncidentUpdate}
      (before : s.getUpdate id order = .ok (some old))
      (place : old.incident = id ∧ old.order = order) :
      Carries m s (.updateUpdate id order input)
        (.update { old with displayName := input.displayName, description := input.description })

/-! ## One write -/

section Writes

variable {s : Store}

theorem beq_text_of_ne {a b : Uuid} (ne : a ≠ b) : (some a.text == some b.text) = false := by
  simpa using ne

/-- Changes to the rows under one key are not seen under another. -/
theorem find?_replace_of_ne {α : Type} {t : Table α} {key : α → Option String} {f : α → α}
    {id other : Uuid} (ne : other ≠ id)
    (kept : ∀ r, key r = some id.text → key (f r) = some id.text) :
    ((t.map fun r => if key r = some id.text then f r else r).rows.find?
      fun r => key r == some other.text) = t.rows.find? fun r => key r == some other.text := by
  refine find?_replace_of_other fun r hit => ?_
  rw [hit, kept r hit]
  exact ⟨beq_text_of_ne ne.symm, beq_text_of_ne ne.symm⟩

theorem saves_createComponent {id : Uuid} {input : NewComponent}
    (fresh : s.hasComponent id = false) :
    Saves s (.component (input.withId id)) none
      (({ s with components := s.components.insert ⟨some id.text, input.displayName⟩ } :
        Store).setLabels id input.labels) := by
  apply saves_component (c := input.withId id)
  · have found := find?_insert_of_fresh (r := ComponentRow.mk (some id.text) input.displayName)
      fresh (beq_self_eq_true _)
    exact congrArg (Option.map ComponentRow.displayName) found
  · exact fun other ne => find?_insert_of_other (beq_text_of_ne ne.symm)

theorem saves_updateComponent {id : Uuid} {input : NewComponent}
    (known : s.hasComponent id = true) :
    Saves s (.component (input.withId id)) none
      (({ s with components := s.components.map fun c =>
        if c.id = some id.text then { c with displayName := input.displayName } else c } :
        Store).setLabels id input.labels) := by
  obtain ⟨old, before⟩ := Option.isSome_iff_exists.1 (List.isSome_find?.trans known)
  apply saves_component (c := input.withId id)
  · have found := find?_replace_self (c := fun c : ComponentRow => c.id = some id.text)
      (f := fun c => { c with displayName := input.displayName }) before (fun _ => beq_iff_eq)
      fun _ hit => beq_iff_eq.2 hit
    exact congrArg (Option.map ComponentRow.displayName) found
  · exact fun other ne => find?_replace_of_ne ne fun _ hit => hit

theorem saves_createImpactType {id : Uuid} {input : NewImpactType}
    (fresh : s.hasImpactType id = false) :
    Saves s (.impactType (input.withId id)) none { s with
      impactTypes :=
        s.impactTypes.insert ⟨some id.text, input.displayName, input.description⟩ } := by
  apply saves_impactType (t := input.withId id)
  · exact find?_insert_of_fresh fresh (beq_self_eq_true _)
  · exact fun other ne => find?_insert_of_other (beq_text_of_ne ne.symm)

theorem saves_updateImpactType {id : Uuid} {input : NewImpactType}
    (known : s.hasImpactType id = true) :
    Saves s (.impactType (input.withId id)) none { s with
      impactTypes := s.impactTypes.map fun t =>
        if t.id = some id.text then ⟨t.id, input.displayName, input.description⟩ else t } := by
  obtain ⟨old, before⟩ := Option.isSome_iff_exists.1 (List.isSome_find?.trans known)
  have key : old.id = some id.text := by simpa using List.find?_some before
  apply saves_impactType (t := input.withId id)
  · have found := find?_replace_self (c := fun t : ImpactTypeRow => t.id = some id.text)
      (f := fun t => ⟨t.id, input.displayName, input.description⟩) before (fun _ => beq_iff_eq)
      fun _ hit => beq_iff_eq.2 hit
    rw [key] at found
    exact found
  · exact fun other ne => find?_replace_of_ne ne fun _ hit => hit

theorem saves_createSeverity {input : Severity}
    (fresh : severityClash? s.severities.rows input = none) :
    Saves s (.severity input) none { s with
      severities := s.severities.insert ⟨some input.displayName, cell8 input.value⟩ } := by
  apply saves_severity
  · refine find?_insert_of_fresh ?_ (beq_self_eq_true _)
    rw [List.any_eq_false]
    intro r member
    rw [beq_iff_eq]
    exact (Consistent.severityClash?_eq_none fresh r member).2
  · exact nofun
  · intro name ne _
    exact find?_insert_of_other (by simpa using Ne.symm ne)

/-- A severity is found under its new name alone, and no other one is lost. -/
theorem saves_updateSeverity {old : String} {input : Severity}
    (next : Consistent { s with
      severities := s.severities.map fun r =>
        if r.displayName = some old then ⟨some input.displayName, cell8 input.value⟩ else r })
    (known : (s.severities.rows.any fun r => r.displayName == some old) = true) :
    Saves s (.severity input) ((Operation.updateSeverity old input).formerName) { s with
      severities := s.severities.map fun r =>
        if r.displayName = some old then ⟨some input.displayName, cell8 input.value⟩ else r } := by
  apply saves_severity
  · obtain ⟨r, member, named⟩ := List.any_eq_true.1 known
    have row : (⟨some input.displayName, cell8 input.value⟩ : SeverityRow) ∈
        (s.severities.map fun r => if r.displayName = some old then
          ⟨some input.displayName, cell8 input.value⟩ else r).rows := by
      rw [Table.rows_map]
      exact List.mem_map.2 ⟨r, member, if_pos (beq_iff_eq.1 named)⟩
    exact find?_eq_of_nodup next.severityNames row
  · intro name former
    rw [Operation.formerName] at former
    split at former
    · cases former
    · next renamed =>
      cases former
      rw [List.find?_eq_none, Table.rows_map]
      intro r member
      obtain ⟨before, -, rfl⟩ := List.mem_map.1 member
      split
      · simpa using renamed
      · next other => simpa using other
  · intro name ne kept
    refine find?_replace_of_other fun r hit => ?_
    have other : old ≠ name := by
      intro same
      refine kept old ?_ same.symm
      rw [Operation.formerName, if_neg fun unchanged => ne (same.symm.trans unchanged.symm)]
      rfl
    rw [hit]
    exact ⟨by simpa using other, by simpa using ne.symm⟩

theorem saves_createIncident (h : s.Consistent) {i : Incident} {impacts : List Impact}
    (next : Consistent { s with
      incidents := s.incidents.insert i.row, impacts := s.impactsFor i.id impacts })
    (times : i.TimesIn Instant.FourDigitYear) (fresh : s.hasIncident i.id = false) :
    Saves s (.incident i.kept) none { s with
      incidents := s.incidents.insert i.row, impacts := s.impactsFor i.id impacts } := by
  apply saves_incident h next times
  · exact find?_insert_of_fresh fresh (beq_self_eq_true _)
  · exact fun other ne => find?_insert_of_other (beq_text_of_ne ne.symm)

theorem saves_updateIncident (h : s.Consistent) {i : Incident} {impacts : List Impact}
    (next : Consistent { s with
      incidents := s.incidents.map fun row => if row.id = some i.id.text then i.row else row
      impacts := s.impactsFor i.id impacts })
    (times : i.TimesIn Instant.FourDigitYear) (known : s.hasIncident i.id = true) :
    Saves s (.incident i.kept) none { s with
      incidents := s.incidents.map fun row => if row.id = some i.id.text then i.row else row
      impacts := s.impactsFor i.id impacts } := by
  obtain ⟨old, before⟩ := Option.isSome_iff_exists.1 (List.isSome_find?.trans known)
  apply saves_incident h next times
  · exact find?_replace_self (c := fun row : IncidentRow => row.id = some i.id.text)
      (f := fun _ => i.row) before (fun _ => beq_iff_eq) fun _ _ => beq_self_eq_true _
  · exact fun other ne => find?_replace_of_ne ne fun _ _ => rfl

/-- An update of an incident gives its row the new content, and the phase that it had unless another
one is given. -/
theorem saves_reviseIncident (h : s.Consistent) {i : Incident} {input : NewIncident}
    (next : Consistent { s with
      incidents := s.incidents.map fun row =>
        if row.id = some i.id.text then i.row.revise input else row
      impacts := s.impactsFor i.id input.impacts })
    (given : input.TimesIn Instant.FourDigitYear) (found : s.findIncident i.id = some i.row) :
    Saves s (.incident (input.withId i.id (input.phase.getD i.phase)).kept) none { s with
      incidents := s.incidents.map fun row =>
        if row.id = some i.id.text then i.row.revise input else row
      impacts := s.impactsFor i.id input.impacts } := by
  have known : s.hasIncident i.id = true := by
    rw [← findIncident_isSome, found]
    rfl
  rw [i.revise_row] at next ⊢
  exact saves_updateIncident (i := input.withId i.id (input.phase.getD i.phase)) h next given known

theorem isAt_row_self (u : IncidentUpdate) : u.row.isAt u.incident u.order = true := by
  rw [isAt_row]
  exact decide_eq_true ⟨rfl, rfl⟩

/-- A row is the update of one place at most. -/
theorem isAt_of_other {r : UpdateRow} {id other : Uuid} {order number : UInt32}
    (here : r.isAt id order = true) (ne : ¬ (other = id ∧ number = order)) :
    r.isAt other number = false := by
  simp only [UpdateRow.isAt, Bool.and_eq_true, beq_iff_eq] at here
  rw [Bool.eq_false_iff]
  intro there
  simp only [UpdateRow.isAt, here, Bool.and_eq_true, beq_iff_eq, Uuid.text_inj, cell32_inj] at there
  exact ne ⟨there.1.symm, there.2.symm⟩

theorem saves_createUpdate {u : IncidentUpdate} (year : u.createdAt.FourDigitYear)
    (fresh : (s.updates.rows.any fun r => r.isAt u.incident u.order) = false) :
    Saves s (.update { u with createdAt := u.createdAt.kept }) none
      { s with updates := s.updates.insert u.row } := by
  apply saves_update year
  · exact find?_insert_of_fresh fresh (isAt_row_self u)
  · exact fun id order ne => find?_insert_of_other (isAt_of_other (isAt_row_self u) ne)

theorem saves_updateUpdate {u : IncidentUpdate} {old : UpdateRow}
    (year : u.createdAt.FourDigitYear)
    (found : (s.updates.rows.find? fun r => r.isAt u.incident u.order) = some old) :
    Saves s (.update { u with createdAt := u.createdAt.kept }) none { s with
      updates := s.updates.map fun r => if r.isAt u.incident u.order then u.row else r } := by
  apply saves_update year
  · exact find?_replace_self (c := fun r : UpdateRow => r.isAt u.incident u.order = true)
      (f := fun _ => u.row) found (fun _ => Iff.rfl) fun _ _ => isAt_row_self u
  · intro id order ne
    exact find?_replace_of_other fun r hit => ⟨isAt_of_other hit ne,
      isAt_of_other (isAt_row_self u) ne⟩

end Writes

/-! ## What an entity carries -/

/-- The phase of a new incident is the one that is given, or the first of the current generation. -/
theorem exists_of_initialPhase {s : Store} (h : s.Consistent) {operation key : String}
    {given : Option PhaseRef} {phase : PhaseRef}
    (chosen : s.initialPhase operation key given = .ok phase) :
    ∃ current, s.currentGeneration = .ok current ∧ (given = none → current ≠ 0) ∧
      phase = given.getD ⟨current, 0⟩ := by
  obtain ⟨log, logged⟩ := h.phaseLog
  refine ⟨_, logged.currentGeneration_eq, ?_⟩
  cases given with
  | some other =>
    cases chosen
    exact ⟨nofun, rfl⟩
  | none =>
    rw [initialPhase, logged.maxGeneration, during_ok, ok_bind, unless_ok_iff] at chosen
    obtain ⟨later, same⟩ := chosen
    cases same
    exact ⟨fun _ => later, rfl⟩

theorem Operation.saved_of_isRead {operation : Operation} (reads : operation.isRead = true)
    (result : operation.Result) : operation.saved result = none := by
  cases operation <;> first | rfl | cases reads

/-- Every write that answers with an entity has saved it, and it carries what it was given. The
answer of a new update has the clock of the call, and the row has what is kept of it. -/
theorem Effect.saves {s : Store} (h : s.Consistent) (times : s.IncidentTimes Instant.FourDigitYear)
    (updates : s.UpdateTimes Instant.FourDigitYear) {m : Moment} (now : m.now.FourDigitYear)
    {operation : Operation} (dated : operation.TimesIn Instant.FourDigitYear)
    {o : Outcome operation.Result} (done : Effect m s operation o) {result : operation.Result}
    (answer : o.answer = .ok result) {entity : Entity}
    (saved : operation.saved result = some entity) :
    Carries m s operation entity ∧ Saves s entity.stored operation.formerName o.store ∧
      (m.now.Regular → entity.stored = entity) := by
  have next := h.effect done
  cases done with
  | read reads =>
    rw [Operation.saved_of_isRead reads] at saved
    cases saved
  | failed => cases answer
  | createComponent _ _ fresh =>
    cases answer
    cases saved
    exact ⟨.createComponent, saves_createComponent fresh, fun _ => rfl⟩
  | updateComponent _ _ known =>
    cases answer
    cases saved
    exact ⟨.updateComponent, saves_updateComponent known, fun _ => rfl⟩
  | createImpactType _ fresh =>
    cases answer
    cases saved
    exact ⟨.createImpactType, saves_createImpactType fresh, fun _ => rfl⟩
  | updateImpactType _ known =>
    cases answer
    cases saved
    exact ⟨.updateImpactType, saves_updateImpactType known, fun _ => rfl⟩
  | createSeverity _ _ fresh =>
    cases answer
    cases saved
    exact ⟨.createSeverity, saves_createSeverity fresh, fun _ => rfl⟩
  | updateSeverity _ _ _ known =>
    cases answer
    cases saved
    exact ⟨.updateSeverity, saves_updateSeverity next known, fun _ => rfl⟩
  | @createIncident input phase _ _ fresh _ chosen =>
    obtain ⟨current, highest, later, rfl⟩ := exists_of_initialPhase h chosen
    have read := Incident.incident_columns
      (i := input.withId m.id (input.phase.getD ⟨current, 0⟩)) dated
    cases read.symm.trans answer
    cases saved
    exact ⟨.createIncident highest later, saves_createIncident h next dated fresh, fun _ => rfl⟩
  | @updateIncident id input old columns _ _ found _ written =>
    obtain ⟨i, rfl, rfl, bounds⟩ := times.exists_of_findIncident found
    rw [i.revise_row, Incident.columns_row] at written
    cases written
    have read := Incident.incident_columns
      (i := input.withId i.id (input.phase.getD i.phase)) dated
    cases read.symm.trans answer
    cases saved
    have before : s.getIncident i.id = .ok (some i.kept) := getIncident_of_found bounds found
    have carries : Carries m s (.updateIncident i.id input)
        (.incident (input.withId i.id (input.phase.getD i.kept.phase)).kept) :=
      .updateIncident before
    exact ⟨carries, saves_reviseIncident h next dated found, fun _ => rfl⟩
  | @createUpdate id input order _ known fresh allocated =>
    cases answer
    cases saved
    have next_order : s.nextUpdateOrder id = .ok order := by
      rw [nextUpdateOrder, if_pos known, allocated, during_ok]
    let u : IncidentUpdate := ⟨id, order, input.displayName, input.description, m.now⟩
    refine ⟨.createUpdate next_order, saves_createUpdate (u := u) now fresh, fun regular => ?_⟩
    exact congrArg (fun t => Entity.update { u with createdAt := t })
      (Instant.settle_of_regular (Instant.regular_truncate.2 regular))
  | @updateUpdate id order input old _ found =>
    obtain ⟨e, rfl, rfl, rfl, year⟩ := updates.exists_of_find found
    let u : IncidentUpdate :=
      { e with displayName := input.displayName, description := input.description }
    have read : s.getUpdate e.incident e.order =
        .ok (some { e with createdAt := e.createdAt.kept }) := by
      rw [getUpdate, found]
      dsimp only
      rw [IncidentUpdate.update_row year]
      rfl
    have written := IncidentUpdate.update_row (u := u) year
    cases written.symm.trans answer
    cases saved
    have shown : (Entity.update { u with createdAt := e.createdAt.kept }).stored =
        .update { u with createdAt := e.createdAt.kept } :=
      congrArg (fun t => Entity.update { u with createdAt := t })
        (Instant.settle_of_regular e.createdAt.regular_kept)
    refine ⟨.updateUpdate read ⟨rfl, rfl⟩, ?_, fun _ => shown⟩
    exact shown.symm ▸ saves_updateUpdate (u := u) year found
  | deleteComponent => cases saved
  | deleteImpactType => cases saved
  | deleteSeverity => cases saved
  | createGeneration => cases saved
  | deleteIncident => cases saved
  | deleteUpdate => cases saved

/-! ## Runs -/

/-- After operations with instants and clocks in years of four digits, a write that succeeds with
such an instant and at such a clock answers with what is read under its key from then on: the
content that was given, whatever was there before. Of instants this is what is kept of them, so the
whole microseconds and of a leap second inside a minute the second that follows. Only the time of a
new update is answered before it is kept, and read as the second that it shows, if the clock is in
a leap second inside a minute. A renamed severity is not found under its old name, and everything
else is read as before: every other entity, every other update of the same incident, the impacts of
every other incident at any instant, and the phases. -/
theorem write_reads_back {operations : List (Moment × Operation)}
    (given : ∀ step ∈ operations, step.2.TimesIn Instant.FourDigitYear)
    (clock : ∀ step ∈ operations, step.1.now.FourDigitYear) {m : Moment}
    (now : m.now.FourDigitYear) {operation : Operation}
    (dated : operation.TimesIn Instant.FourDigitYear) {result : operation.Result}
    (succeeded : (operation.perform m (empty.run operations)).answer = .ok result)
    {entity : Entity} (saved : operation.saved result = some entity) :
    Carries m (empty.run operations) operation entity ∧
      Saves (empty.run operations) entity.stored operation.formerName
        (operation.perform m (empty.run operations)).store ∧
      (m.now.Regular → entity.stored = entity) := by
  have consistent := consistent_run .empty operations
  have times := incidentTimes_run .empty given
  have updates := updateTimes_run .empty clock
  have done := perform_effect m (empty.run operations) operation
  exact done.saves consistent times updates now dated succeeded saved

/-- An incident that begins in a leap second inside a minute is answered and read back with the
second that follows as its beginning, which is not the one that was given in whole microseconds. -/
theorem write_reads_back_inside_minute :
    let content : NewIncident := { outageContent with beganAt := Instant.insideMinute }
    let operation : Operation := .updateIncident (Uuid.ofNat 3) content
    let shown : Incident := ⟨Uuid.ofNat 3, "Outage", "",
      ⟨13, 900000000, by decide, by decide, by decide⟩, none, ⟨1, 0⟩⟩
    operation.TimesIn Instant.FourDigitYear ∧
      (operation.perform (momentOf 5) (empty.run outage)).answer = .ok shown ∧
      (operation.perform (momentOf 5) (empty.run outage)).store.getIncident (Uuid.ofNat 3) =
        .ok (some shown) ∧
      shown.beganAt ≠ content.beganAt.truncate := by
  intro content operation shown
  have answer : (operation.perform (momentOf 5) (empty.run outage)).answer = .ok shown := by
    decide
  exact ⟨by decide, answer, by decide, by decide⟩

/-- An outage that is called by another name is read so, in the phase that it had, and its component
is read as before. -/
theorem write_reads_back_in_outage :
    let content : NewIncident := { outageContent with displayName := "Slow", impacts := [] }
    let operation : Operation := .updateIncident (Uuid.ofNat 3) content
    let next := (operation.perform (momentOf 5) (empty.run outage)).store
    (∀ step ∈ outage, step.2.TimesIn Instant.FourDigitYear) ∧
      (∀ step ∈ outage, step.1.now.FourDigitYear) ∧ (momentOf 5).now.FourDigitYear ∧
      operation.TimesIn Instant.FourDigitYear ∧
      next.read (.incident (Uuid.ofNat 3)) =
        .ok (some (.incident (content.withId (Uuid.ofNat 3) ⟨1, 0⟩).kept)) ∧
      next.read (.component (Uuid.ofNat 1)) =
        (empty.run outage).read (.component (Uuid.ofNat 1)) := by
  intro content operation next
  have given : ∀ step ∈ outage, step.2.TimesIn Instant.FourDigitYear := by decide
  have clock : ∀ step ∈ outage, step.1.now.FourDigitYear := by decide
  have now : (momentOf 5).now.FourDigitYear := by decide
  have dated : operation.TimesIn Instant.FourDigitYear := by decide
  have succeeded : (operation.perform (momentOf 5) (empty.run outage)).answer =
      .ok (content.withId (Uuid.ofNat 3) ⟨1, 0⟩).kept := by decide
  obtain ⟨-, saves, -⟩ := write_reads_back given clock now dated succeeded rfl
  exact ⟨given, clock, now, dated, saves.saved, saves.others _ nofun nofun⟩

end StatusPage.Store
