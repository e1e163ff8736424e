import Mathlib
import StatusPage.Proofs.Store.WriteOutcomes

/-!
# Impacts off the scale

An impact carries its severity in eight bits, and the rules on the content of an incident leave it
at that: whether it is on the scale is looked at by the table of impacts alone, after the row of the
incident went in. So a write with an impact off the scale never goes through and never changes
anything, but what it fails with is whatever is found first. `offScaleCreation` and
`offScaleRevision` are the faults in that order, and `off_scale_writes_fail` says that they are the
faults of every reachable store: a bad argument exactly if the content has a flaw besides.
-/

namespace StatusPage

open Text Store

/-- Some impact of a list has a severity above the top of the scale. -/
def OffScale (impacts : List Impact) : Prop :=
  ∃ impact ∈ impacts, 100 < impact.severity.toNat

instance (impacts : List Impact) : Decidable (OffScale impacts) :=
  inferInstanceAs (Decidable (∃ impact ∈ impacts, 100 < impact.severity.toNat))

/-- Whether the window of an incident is in order once its bounds are texts. -/
def NewIncident.storedInOrder (input : NewIncident) : Bool :=
  boundsInOrder input.beganAt.storedText (input.endedAt.map Instant.storedText)

namespace Store

/-! ## The tables of faults -/

/-- The fault of a creation with an impact off the scale, given the current generation. -/
def offScaleCreation (s : Store) (id : Uuid) (current : UInt32) (input : NewIncident) : Fault :=
  match s.firstMissing? input.references with
  | some missing => .refused missing.notFound
  | none =>
    if input.phase = none ∧ current = 0 then .refused (.generationNotFound 0)
    else if !input.storedInOrder then .failed "create_incident" id.text (.check windowRule)
    else if s.hasIncident id then idInUse id
    else .failed "create_incident" id.text (.check severityRule)

/-- The fault of an update with an impact off the scale. -/
def offScaleRevision (s : Store) (id : Uuid) (input : NewIncident) : Fault :=
  if !s.hasIncident id then .refused (.incidentNotFound id)
  else match s.firstMissing? input.references with
  | some missing => .refused missing.notFound
  | none =>
    if !input.storedInOrder then .failed "update_incident" id.text (.check windowRule)
    else .failed "update_incident" id.text (.check severityRule)

/-- A violated rule is a conflict and a missing entity is one that was not found. -/
theorem kind_offScaleCreation (s : Store) (id : Uuid) (current : UInt32) (input : NewIncident) :
    (s.offScaleCreation id current input).kind = .notFound ∨
      (s.offScaleCreation id current input).kind = .conflict := by
  unfold offScaleCreation
  split
  · next missing _ => exact Or.inl (kind_notFound missing)
  · split
    · exact Or.inl rfl
    · split
      · exact Or.inr rfl
      · split <;> exact Or.inr rfl

theorem kind_offScaleRevision (s : Store) (id : Uuid) (input : NewIncident) :
    (s.offScaleRevision id input).kind = .notFound ∨
      (s.offScaleRevision id input).kind = .conflict := by
  unfold offScaleRevision
  split
  · exact Or.inl rfl
  · split
    · next missing _ => exact Or.inl (kind_notFound missing)
    · split <;> exact Or.inr rfl

/-- What was not found, or clashes with what is there, is no bad argument. -/
theorem not_invalidArgument {kind : ErrorKind} (known : kind = .notFound ∨ kind = .conflict) :
    kind ≠ .invalidArgument := by
  rcases known with rfl | rfl <;> exact nofun

/-! ## What the table of impacts refuses -/

/-- The impacts before the first one off the scale do go in, and nothing is kept of them. -/
theorem replaceImpacts_of_offScale {s : Store} (unblocked : s.impactsBlocked = false)
    {impacts : List Impact} (off : OffScale impacts) (id : Uuid) :
    s.replaceImpacts id impacts = .error (.check severityRule) := by
  obtain ⟨impact, member, beyond⟩ := off
  have some_off : (impacts.find? fun m => decide (100 < m.severity.toNat)).isSome = true :=
    List.find?_isSome.2 ⟨impact, member, decide_eq_true beyond⟩
  obtain ⟨bad, found⟩ := Option.isSome_iff_exists.1 some_off
  obtain ⟨bad_off, before, after, split, scale⟩ := List.find?_eq_some_iff_append.1 found
  have on_scale : ∀ m ∈ before, m.severity.toNat ≤ 100 := by
    intro m earlier
    simpa using scale m earlier
  rw [replaceImpacts, unblocked, split, insertImpacts_of_bad on_scale (of_decide_eq_true bad_off)]
  rfl

namespace Consistent

variable {s : Store} (h : s.Consistent)

include h

/-- The row of a new incident is looked at first, and its impacts then. -/
theorem insertion_of_offScale {i : Incident} {impacts : List Impact}
    (known : s.hasPhase i.phase = true) (off : OffScale impacts) :
    s.insertion i impacts = .fail s
      (if !boundsInOrder i.row.beganAt i.row.endedAt then
        .failed "create_incident" i.id.text (.check windowRule)
      else if s.hasIncident i.id then idInUse i.id
      else .failed "create_incident" i.id.text (.check severityRule)) := by
  rw [insertion, insertIncident_of_phase known]
  cases boundsInOrder i.row.beganAt i.row.endedAt with
  | false => rfl
  | true =>
    cases s.hasIncident i.id with
    | true => rfl
    | false =>
      have refused := replaceImpacts_of_offScale (s := { s with
        incidents := s.incidents.insert i.row }) h.unblocked off i.id
      rw [if_pos rfl, if_neg Bool.false_ne_true, during_ok, ok_bind, refused]
      rfl

/-- The new row is looked at first, and the impacts then. -/
theorem replacement_of_offScale {i : Incident} {impacts : List Impact}
    (known : s.hasPhase i.phase = true) (off : OffScale impacts) :
    s.replacement i impacts = .fail s
      (if !boundsInOrder i.row.beganAt i.row.endedAt then
        .failed "update_incident" i.id.text (.check windowRule)
      else .failed "update_incident" i.id.text (.check severityRule)) := by
  rw [replacement, reviseIncident_of_phase known]
  cases boundsInOrder i.row.beganAt i.row.endedAt with
  | false => rfl
  | true =>
    have refused := replaceImpacts_of_offScale (s := { s with
      incidents := s.incidents.map fun row => if row.id = some i.id.text then i.row else row })
      h.unblocked off i.id
    rw [if_pos rfl, during_ok, ok_bind, refused]
    rfl

variable {input : NewIncident} (off : OffScale input.impacts) (accepted : input.Accepted)

include off accepted

theorem createIncident_of_offScale (id : Uuid) {current : UInt32}
    (highest : s.currentGeneration = .ok current) :
    s.createIncident id input = .fail s (s.offScaleCreation id current input) := by
  rw [createIncident_stages accepted id highest, offScaleCreation]
  cases resolved : s.firstMissing? input.references with
  | some missing => rfl
  | none =>
    by_cases first : input.phase = none ∧ current = 0
    · simp only [if_pos first]
    · simp only [if_neg first]
      exact h.insertion_of_offScale (h.hasPhase_initial resolved highest first) off

theorem updateIncident_of_offScale (id : Uuid) :
    s.updateIncident id input = .fail s (s.offScaleRevision id input) := by
  unfold offScaleRevision
  cases known : s.hasIncident id with
  | false => exact updateIncident_of_unknown accepted known
  | true =>
    obtain ⟨old, rfl, found, old_phase⟩ := h.exists_of_hasIncident known
    rw [updateIncident_stages accepted found, Bool.not_true, if_neg Bool.false_ne_true]
    cases resolved : s.firstMissing? input.references with
    | some missing => rfl
    | none =>
      have kept := hasPhase_getD resolved fun _ => old_phase
      exact h.replacement_of_offScale
        (i := input.withId old.id (input.phase.getD old.phase)) kept off

end Consistent

/-! ## The outcomes -/

/-- In every reachable store, whatever the instants and wherever in the list the impact stands: a
write of an incident with an impact off the scale fails and changes nothing. It fails with a bad
argument exactly if the content has a flaw, and with the fault of the table if it has none. -/
theorem off_scale_writes_fail {s : Store} (reachable : s.Reachable) {input : NewIncident}
    (off : OffScale input.impacts) (id : Uuid) :
    (∃ fault, s.createIncident id input = .fail s fault ∧
      (fault.kind = .invalidArgument ↔ input.Flawed) ∧
      (¬ input.Flawed → ∃ current, s.currentGeneration = .ok current ∧
        fault = s.offScaleCreation id current input)) ∧
    ∃ fault, s.updateIncident id input = .fail s fault ∧
      (fault.kind = .invalidArgument ↔ input.Flawed) ∧
      (¬ input.Flawed → fault = s.offScaleRevision id input) := by
  obtain ⟨operations, rfl⟩ := reachable
  have consistent := consistent_run .empty operations
  obtain ⟨log, logged⟩ := consistent.phaseLog
  have highest := logged.currentGeneration_eq
  generalize empty.run operations = s at consistent highest
  by_cases flawed : input.Flawed
  · obtain ⟨violation, creates, revises⟩ := exists_fail_of_flawed flawed s id
    have refuses : (Fault.refused (.invalid violation)).kind = .invalidArgument ↔ input.Flawed :=
      iff_of_true rfl flawed
    exact ⟨⟨_, creates, refuses, absurd flawed⟩, ⟨_, revises, refuses, absurd flawed⟩⟩
  · have accepted := NewIncident.accepted_iff.2 flawed
    have creates := consistent.createIncident_of_offScale off accepted id highest
    have revises := consistent.updateIncident_of_offScale off accepted id
    have creation_kind :=
      not_invalidArgument (kind_offScaleCreation s id (UInt32.ofNat log.length) input)
    have revision_kind := not_invalidArgument (kind_offScaleRevision s id input)
    exact ⟨⟨_, creates, iff_of_false creation_kind flawed, fun _ => ⟨_, highest, rfl⟩⟩,
      ⟨_, revises, iff_of_false revision_kind flawed, fun _ => rfl⟩⟩

/-- The outage with a severity one above the top of the scale. -/
def offScaleContent : NewIncident :=
  { outageContent with impacts := [⟨Uuid.ofNat 1, Uuid.ofNat 2, 101⟩] }

/-- During the outage, a second one and a change of the first are both refused by the table of
impacts. -/
theorem off_scale_writes_fail_in_outage :
    (empty.run outage).Reachable ∧ OffScale offScaleContent.impacts ∧
      (empty.run outage).createIncident (Uuid.ofNat 5) offScaleContent = .fail (empty.run outage)
        (.failed "create_incident" (Uuid.ofNat 5).text (.check severityRule)) ∧
      (empty.run outage).updateIncident (Uuid.ofNat 3) offScaleContent = .fail (empty.run outage)
        (.failed "update_incident" (Uuid.ofNat 3).text (.check severityRule)) := by
  have reachable : (empty.run outage).Reachable := ⟨outage, rfl⟩
  have off : OffScale offScaleContent.impacts := by decide
  have sound : ¬ offScaleContent.Flawed :=
    NewIncident.accepted_iff.1 (NewIncident.validate_ok_iff.1 (by decide))
  have first : (empty.run outage).currentGeneration = .ok 1 := by decide
  obtain ⟨⟨created, creates, -, creation⟩, -⟩ :=
    off_scale_writes_fail reachable off (Uuid.ofNat 5)
  obtain ⟨-, revised, revises, -, revision⟩ := off_scale_writes_fail reachable off (Uuid.ofNat 3)
  refine ⟨reachable, off, ?_, ?_⟩
  · obtain ⟨current, highest, rfl⟩ := creation sound
    rw [first] at highest
    cases highest
    rw [creates]
    exact congrArg (Outcome.fail _) (by decide)
  · obtain rfl := revision sound
    rw [revises]
    exact congrArg (Outcome.fail _) (by decide)

/-- Not every impact off the scale is refused as a bad argument. -/
theorem off_scale_not_bad_argument :
    ¬ ∀ (s : Store) (id : Uuid) (input : NewIncident), s.Reachable → OffScale input.impacts →
      (RefusesContent (s.createIncident id input) ∧ (s.createIncident id input).store = s) ∧
        RefusesContent (s.updateIncident id input) ∧ (s.updateIncident id input).store = s := by
  intro claimed
  obtain ⟨⟨⟨fault, answer, kind⟩, -⟩, -⟩ :=
    claimed (empty.run outage) (Uuid.ofNat 5) offScaleContent ⟨outage, rfl⟩ (by decide)
  have conflict : ((empty.run outage).createIncident (Uuid.ofNat 5) offScaleContent).answer =
      .error (.failed "create_incident" (Uuid.ofNat 5).text (.check severityRule)) := by decide
  rw [conflict] at answer
  cases answer
  cases kind

end Store

end StatusPage
