import Mathlib
import StatusPage.Proofs.Store.Availability
import StatusPage.Proofs.Store.OffScale

/-!
# Faults of writes

`Readable` says of a store that everything in it can be read back, which every operation in years of
four digits keeps. In such a store a write fails because it is refused or because a constraint is
violated, and never because the store is of no use: `Readable.available_perform` says so of every
operation. Incidents go by the tables of `creation`, `revision` and of impacts off the scale.
-/

namespace StatusPage.Store

open Text

/-! ## Readable stores -/

/-- The tables are consistent and every instant in them has a year of four digits. -/
structure Readable (s : Store) : Prop where
  consistent : s.Consistent
  incidents : s.IncidentTimes Instant.FourDigitYear
  updates : s.UpdateTimes Instant.FourDigitYear

namespace Readable

variable {s : Store}

theorem effect (h : s.Readable) {m : Moment} (now : m.now.FourDigitYear) {operation : Operation}
    (dated : operation.TimesIn Instant.FourDigitYear) {o : Outcome operation.Result}
    (done : Effect m s operation o) : o.store.Readable :=
  ⟨h.consistent.effect done, h.incidents.effect dated done, h.updates.effect now done⟩

end Readable

theorem readable_run {operations : List (Moment × Operation)}
    (clock : ∀ step ∈ operations, step.1.now.FourDigitYear)
    (given : ∀ step ∈ operations, step.2.TimesIn Instant.FourDigitYear) :
    (empty.run operations).Readable :=
  ⟨consistent_run .empty operations, incidentTimes_run .empty given, updateTimes_run .empty clock⟩

/-! ## Steps of a write -/

section Steps

variable {α β : Type}

/-- A violated constraint is no fault of the store. -/
theorem available_violated {operation key : String} {cause : Cause}
    (violated : cause.isConstraint = true) :
    Available (.error (.failed operation key cause) : Except Fault α) := by
  intro fault failed
  cases failed
  rw [Fault.kind, if_pos violated]
  intro same
  cases same

theorem available_refusing (result : Except Error α) : Available (refusing result) := by
  cases result with
  | error error => exact available_refused error
  | ok a => exact available_ok a

theorem Available.bind {x : Except Fault α} {f : α → Except Fault β} (first : Available x)
    (rest : ∀ a, x = .ok a → Available (f a)) : Available (x >>= f) := by
  cases x with
  | error fault =>
    intro other failed
    cases failed
    exact first fault rfl
  | ok a => exact rest a rfl

theorem available_ofWrite {s : Store} {written : Except Fault (β × Store)}
    {answer : β → Except Fault α} (writes : Available written)
    (answers : ∀ b next, written = .ok (b, next) → Available (answer b)) :
    Available (Outcome.ofWrite s written answer).answer := by
  cases written with
  | error fault =>
    intro other failed
    cases failed
    exact writes fault rfl
  | ok p => exact answers p.1 p.2 rfl

end Steps

/-! ## Writes of one row -/

section Rows

variable (s : Store)

theorem available_createComponent (id : Uuid) (input : NewComponent) :
    Available (s.createComponent id input).answer := by
  unfold createComponent
  split
  · exact available_refused _
  · split
    · exact available_violated rfl
    · exact available_ok _

theorem available_updateComponent (id : Uuid) (input : NewComponent) :
    Available (s.updateComponent id input).answer := by
  unfold updateComponent
  split
  · exact available_refused _
  · split
    · exact available_ok _
    · exact available_refused _

theorem available_deleteComponent (id : Uuid) : Available (s.deleteComponent id).answer := by
  unfold deleteComponent
  split
  · split
    · exact available_violated rfl
    · exact available_ok _
  · exact available_refused _

theorem available_createImpactType (id : Uuid) (input : NewImpactType) :
    Available (s.createImpactType id input).answer := by
  unfold createImpactType
  split
  · exact available_refused _
  · split
    · exact available_violated rfl
    · exact available_ok _

theorem available_updateImpactType (id : Uuid) (input : NewImpactType) :
    Available (s.updateImpactType id input).answer := by
  unfold updateImpactType
  split
  · exact available_refused _
  · split
    · exact available_ok _
    · exact available_refused _

theorem available_deleteImpactType (id : Uuid) : Available (s.deleteImpactType id).answer := by
  unfold deleteImpactType
  split
  · split
    · exact available_violated rfl
    · exact available_ok _
  · exact available_refused _

/-- Severities clash in a name or a value. -/
theorem isConstraint_of_severityClash {others : List SeverityRow} {severity : Severity}
    {cause : Cause} (clash : severityClash? others severity = some cause) :
    cause.isConstraint = true := by
  unfold severityClash? at clash
  split at clash
  · cases clash
    rfl
  · split at clash
    · cases clash
      rfl
    · cases clash

theorem available_createSeverity (input : Severity) :
    Available (s.createSeverity input).answer := by
  unfold createSeverity
  split
  · exact available_refused _
  · split
    · next cause clash => exact available_violated (isConstraint_of_severityClash clash)
    · exact available_ok _

theorem available_updateSeverity (name : String) (input : Severity) :
    Available (s.updateSeverity name input).answer := by
  unfold updateSeverity
  split
  · exact available_refused _
  · split
    · dsimp only
      split
      · next cause clash => exact available_violated (isConstraint_of_severityClash clash)
      · exact available_ok _
    · exact available_refused _

theorem available_deleteSeverity (name : String) : Available (s.deleteSeverity name).answer := by
  unfold deleteSeverity
  split
  · exact available_ok _
  · exact available_refused _

theorem available_deleteIncident (id : Uuid) : Available (s.deleteIncident id).answer := by
  unfold deleteIncident
  split
  · exact available_ok _
  · exact available_refused _

theorem available_deleteUpdate (id : Uuid) (order : UInt32) :
    Available (s.deleteUpdate id order).answer := by
  unfold deleteUpdate
  split
  · exact available_ok _
  · exact available_refused _

end Rows

/-! ## Writes of several steps -/

theorem available_during {α : Type} {operation key : String} {result : Except Cause α}
    (violated : ∀ cause, result = .error cause → cause.isConstraint = true) :
    Available (during operation key result) := by
  cases result with
  | error cause => exact available_violated (violated cause rfl)
  | ok a => exact available_ok a

theorem isConstraint_of_insertPhases {table : Table PhaseRow} {phases : List Phase} {cause : Cause}
    (failed : insertPhases table phases = .error cause) : cause.isConstraint = true := by
  induction phases generalizing table with
  | nil => cases failed
  | cons phase rest ih =>
    unfold insertPhases at failed
    split at failed
    · cases failed
      rfl
    · split at failed
      · cases failed
        rfl
      · exact ih failed

theorem available_missing {α : Type} {s : Store} (missing : Reference) :
    Available (Outcome.fail s (.refused missing.notFound) : Outcome α).answer :=
  available_refused _

/-- The tables of outcomes have no place for a store that is of no use. -/
theorem available_creation (s : Store) (id : Uuid) (current : UInt32) (input : NewIncident) :
    Available (s.creation id current input).answer := by
  unfold creation
  split
  · next missing _ => exact available_missing missing
  · split
    · exact available_refused _
    · split
      · exact available_violated rfl
      · split
        · exact available_violated rfl
        · exact available_ok _

theorem available_revision (s : Store) (old : Incident) (input : NewIncident) :
    Available (s.revision old input).answer := by
  unfold revision
  split
  · next missing _ => exact available_missing missing
  · split
    · exact available_violated rfl
    · exact available_ok _

theorem available_fail {α : Type} {s : Store} {fault : Fault}
    (known : fault.kind = .notFound ∨ fault.kind = .conflict) :
    Available (Outcome.fail s fault : Outcome α).answer := by
  intro other failed
  cases failed
  rcases known with known | known <;> rw [known] <;> exact nofun

theorem scale_of_not_offScale {impacts : List Impact} (on_scale : ¬ OffScale impacts) :
    ∀ impact ∈ impacts, impact.severity.toNat ≤ 100 := by
  intro impact member
  by_contra beyond
  exact on_scale ⟨impact, member, Nat.lt_of_not_le beyond⟩

namespace Consistent

variable {s : Store} (h : s.Consistent)

include h

theorem available_createGeneration (names : List String) :
    Available (s.createGeneration names).answer := by
  unfold createGeneration
  refine available_ofWrite ?_ fun next _ _ => available_ok next
  refine (available_refusing _).bind fun _ _ => ?_
  refine (h.gives_maxGeneration.mapError _).available.bind fun current _ => ?_
  refine (available_refusing _).bind fun phases _ => ?_
  refine (available_during fun cause => isConstraint_of_insertPhases).bind fun table _ => ?_
  exact available_ok _

theorem available_createUpdate (now : Instant) (id : Uuid) (input : NewIncidentUpdate) :
    Available (s.createUpdate now id input).answer := by
  unfold createUpdate
  refine available_ofWrite ?_ fun order _ _ => available_ok _
  refine (available_refusing _).bind fun _ _ => ?_
  split
  · exact available_refused _
  · obtain ⟨order, allocated, -⟩ := h.exists_allocateOrder id
    rw [allocated, during_ok]
    dsimp only [ok_bind]
    split
    · exact available_violated rfl
    · exact available_ok _

variable {input : NewIncident} (given : input.TimesIn Instant.FourDigitYear) (id : Uuid)

include given

theorem available_createIncident : Available (s.createIncident id input).answer := by
  by_cases flawed : input.Flawed
  · obtain ⟨violation, creates, -⟩ := exists_fail_of_flawed flawed s id
    rw [creates]
    exact available_refused _
  · have accepted := NewIncident.accepted_iff.2 flawed
    obtain ⟨current, highest, -⟩ := h.gives_maxGeneration.mapError
      (fun cause => Fault.failed "current_generation" "" cause)
    by_cases off : OffScale input.impacts
    · rw [h.createIncident_of_offScale off accepted id highest]
      exact available_fail (kind_offScaleCreation s id current input)
    · rw [h.createIncident_eq given accepted (scale_of_not_offScale off) id highest]
      exact available_creation s id current input

theorem available_updateIncident : Available (s.updateIncident id input).answer := by
  by_cases flawed : input.Flawed
  · obtain ⟨violation, -, revises⟩ := exists_fail_of_flawed flawed s id
    rw [revises]
    exact available_refused _
  · have accepted := NewIncident.accepted_iff.2 flawed
    by_cases off : OffScale input.impacts
    · rw [h.updateIncident_of_offScale off accepted id]
      exact available_fail (kind_offScaleRevision s id input)
    · cases known : s.hasIncident id with
      | false =>
        rw [updateIncident_of_unknown accepted known]
        exact available_refused _
      | true =>
        obtain ⟨old, rfl, found, -⟩ := h.exists_of_hasIncident known
        rw [h.updateIncident_eq given accepted (scale_of_not_offScale off) found]
        exact available_revision s old input

end Consistent

theorem UpdateTimes.available_updateUpdate {s : Store}
    (updates : s.UpdateTimes Instant.FourDigitYear) (id : Uuid) (order : UInt32)
    (input : NewIncidentUpdate) : Available (s.updateUpdate id order input).answer := by
  unfold updateUpdate
  apply available_ofWrite
  · refine (available_refusing _).bind fun _ _ => ?_
    split
    · exact available_refused _
    · exact available_ok _
  · intro row next written
    obtain ⟨_, -, written⟩ := bind_ok_iff.1 written
    split at written
    · cases written
    · next old found =>
      cases written
      obtain ⟨e, rfl, -, rfl, year⟩ := updates.exists_of_find found
      have answer := IncidentUpdate.update_row
        (u := { e with displayName := input.displayName, description := input.description }) year
      exact Eq.subst (motive := Available) answer.symm (available_ok _)

/-! ## Every operation -/

/-- In a readable store no operation in years of four digits fails because the store is of no use.
-/
theorem Readable.available_perform {s : Store} (h : s.Readable) (m : Moment)
    (operation : Operation) (dated : operation.TimesIn Instant.FourDigitYear) :
    Available (operation.perform m s).answer := by
  cases operation with
  | createComponent input => exact available_createComponent s m.id input
  | updateComponent id input => exact available_updateComponent s id input
  | deleteComponent id => exact available_deleteComponent s id
  | createImpactType input => exact available_createImpactType s m.id input
  | updateImpactType id input => exact available_updateImpactType s id input
  | deleteImpactType id => exact available_deleteImpactType s id
  | createSeverity input => exact available_createSeverity s input
  | updateSeverity name input => exact available_updateSeverity s name input
  | deleteSeverity name => exact available_deleteSeverity s name
  | createGeneration names => exact h.consistent.available_createGeneration names
  | createIncident input => exact h.consistent.available_createIncident dated m.id
  | updateIncident id input => exact h.consistent.available_updateIncident dated id
  | deleteIncident id => exact available_deleteIncident s id
  | createUpdate id input => exact h.consistent.available_createUpdate m.now id input
  | updateUpdate id order input => exact h.updates.available_updateUpdate id order input
  | deleteUpdate id order => exact available_deleteUpdate s id order
  | _ => exact h.consistent.available_of_isRead h.incidents h.updates m rfl

end StatusPage.Store
