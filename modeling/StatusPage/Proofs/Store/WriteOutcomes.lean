import Mathlib
import StatusPage.Proofs.Store.Generations
import StatusPage.Proofs.Store.Rollback

/-!
# How writes of incidents end

Whether an incident is written is decided by what the caller gives, by what it refers to, by what is
kept of its window and by the identifier that is drawn, in this order. `creation` and `revision` are
the tables of decisions, made of `Flawed`, `firstMissing?` and `Crossed` alone;
`incident_write_outcomes` says that in a reachable store the two writes end as the tables say. So no
constraint of the tables is ever violated but two. One is that on identifiers. The other is that on
windows, which takes an instant in a leap second inside a minute: all other instants in order stay
so as texts, and a phase that an incident kept still exists.
-/

namespace StatusPage

open Text Store

/-! ## What a caller gives -/

/-- The content of an incident breaks a rule that no store is needed for. -/
def NewIncident.Flawed (input : NewIncident) : Prop :=
  ¬ Visible input.displayName ∨ (∃ ended ∈ input.endedAt, ended < input.beganAt) ∨
    ¬ (input.impacts.map Impact.target).Nodup

theorem NewIncident.accepted_iff {input : NewIncident} : input.Accepted ↔ ¬ input.Flawed := by
  have window : (∀ ended ∈ input.endedAt, input.beganAt ≤ ended) ↔
      ¬ ∃ ended ∈ input.endedAt, ended < input.beganAt := by
    simp only [not_exists, not_and]
    exact Iff.rfl
  rw [Flawed, not_or, not_or, not_not, not_not, ← window]
  constructor
  · rintro ⟨name, order, targets⟩
    exact ⟨name, order, targets⟩
  · rintro ⟨name, order, targets⟩
    exact ⟨name, order, targets⟩

/-- Content is refused only for breaking a rule. -/
theorem NewIncident.exists_invalid {input : NewIncident} {error : Error}
    (refused : input.validate = .error error) : ∃ violation, error = .invalid violation := by
  unfold validate at refused
  cases blankName : blank input.displayName with
  | true =>
    rw [blankName] at refused
    cases refused
    exact ⟨_, rfl⟩
  | false =>
    rw [blankName] at refused
    cases window : Window.make input.beganAt input.endedAt with
    | error flaw =>
      rw [window] at refused
      cases refused
      unfold Window.make at window
      split at window
      · split at window
        · cases window
          exact ⟨_, rfl⟩
        · cases window
      · cases window
    | ok w =>
      rw [window] at refused
      cases again : repeatedImpact? [] input.impacts with
      | none =>
        rw [again] at refused
        cases refused
      | some impact =>
        rw [again] at refused
        cases refused
        exact ⟨_, rfl⟩

/-! ## What it refers to -/

/-- Something that the content of an incident refers to. -/
inductive Reference where
  | phase (ref : PhaseRef)
  | component (id : Uuid)
  | impactType (id : Uuid)
  deriving DecidableEq

/-- The refusal of a reference to nothing. -/
def Reference.notFound : Reference → Error
  | .phase ref => .phaseNotFound ref
  | .component id => .componentNotFound id
  | .impactType id => .impactTypeNotFound id

/-- What an impact refers to, the component before the type. -/
def Impact.references (impact : Impact) : List Reference :=
  [.component impact.component, .impactType impact.impactType]

/-- What an incident refers to: its phase, if one is given, and then its impacts in order. -/
def NewIncident.references (input : NewIncident) : List Reference :=
  input.phase.toList.map .phase ++ input.impacts.flatMap Impact.references

namespace Store

/-- Whether what is referred to exists. -/
def resolves (s : Store) : Reference → Bool
  | .phase ref => s.hasPhase ref
  | .component id => s.hasComponent id
  | .impactType id => s.hasImpactType id

/-- The first reference that leads to nothing. -/
def firstMissing? (s : Store) (references : List Reference) : Option Reference :=
  references.find? fun reference => !s.resolves reference

theorem checkImpacts_eq (s : Store) (impacts : List Impact) :
    s.checkImpacts impacts =
      match s.firstMissing? (impacts.flatMap Impact.references) with
      | some missing => .error missing.notFound
      | none => .ok () := by
  induction impacts with
  | nil => rfl
  | cons impact rest ih =>
    rw [checkImpacts, ih]
    cases component : s.hasComponent impact.component <;>
      cases impactType : s.hasImpactType impact.impactType <;>
      simp [firstMissing?, Impact.references, resolves, component, impactType, Reference.notFound]

theorem checkReferences_eq (s : Store) (input : NewIncident) :
    s.checkReferences input =
      match s.firstMissing? input.references with
      | some missing => .error missing.notFound
      | none => .ok () := by
  unfold checkReferences
  cases given : input.phase with
  | none => simp [NewIncident.references, given, checkImpacts_eq]
  | some phase =>
    cases known : s.hasPhase phase <;>
      simp [NewIncident.references, given, known, checkImpacts_eq, firstMissing?, resolves,
        Reference.notFound]

/-! ## The tables of decisions -/

/-- A drawn identifier that is in use. -/
def idInUse (id : Uuid) : Fault :=
  .failed "create_incident" id.text (.unique ["incidents.incident_id"])

/-- A window that is out of order as it is kept. -/
def windowCrossed (operation : String) (id : Uuid) : Fault :=
  .failed operation id.text (.check windowRule)

/-- The store with one more incident and its impacts. -/
def withIncident (s : Store) (i : Incident) (impacts : List Impact) : Store :=
  { s with incidents := s.incidents.insert i.row, impacts := s.impactsFor i.id impacts }

/-- The store with an incident and its impacts in place of those under its identifier. -/
def withRevised (s : Store) (i : Incident) (impacts : List Impact) : Store :=
  { s with
    incidents := s.incidents.map fun row => if row.id = some i.id.text then i.row else row
    impacts := s.impactsFor i.id impacts }

/-- How the creation of an incident without a flaw ends, given the current generation. -/
def creation (s : Store) (id : Uuid) (current : UInt32) (input : NewIncident) : Outcome Incident :=
  match s.firstMissing? input.references with
  | some missing => .fail s (.refused missing.notFound)
  | none =>
    if input.phase = none ∧ current = 0 then .fail s (.refused (.generationNotFound 0))
    else if input.Crossed then .fail s (windowCrossed "create_incident" id)
    else if s.hasIncident id then .fail s (idInUse id)
    else
      let i := input.withId id (input.phase.getD ⟨current, 0⟩)
      ⟨.ok i.kept, s.withIncident i input.impacts⟩

/-- How the update of an incident with content without a flaw ends. -/
def revision (s : Store) (old : Incident) (input : NewIncident) : Outcome Incident :=
  match s.firstMissing? input.references with
  | some missing => .fail s (.refused missing.notFound)
  | none =>
    if input.Crossed then .fail s (windowCrossed "update_incident" old.id)
    else
      let i := input.withId old.id (input.phase.getD old.phase)
      ⟨.ok i.kept, s.withRevised i input.impacts⟩

/-! ## Writes that nothing stands against -/

/-- Of the current generation there is a first phase. -/
theorem GenerationsDense.hasPhase_first {s : Store} (dense : s.GenerationsDense) {current : UInt32}
    (highest : s.currentGeneration = .ok current) (some_generation : current ≠ 0) :
    s.hasPhase ⟨current, 0⟩ = true := by
  obtain ⟨g, same, -, orders⟩ := dense
  rw [highest, Except.ok.injEq] at same
  subst same
  have pos : 1 ≤ current.toNat := by
    rw [Nat.one_le_iff_ne_zero]
    exact fun zero => some_generation (UInt32.toNat_inj.1 zero)
  obtain ⟨k, k_pos, listed⟩ := orders current.toNat pos le_rfl
  have first : Cell.int ((0 : Nat) : Int) ∈
      (s.phases.rows.filter fun row => row.generation == .int current.toNat).map (·.order) := by
    rw [listed, List.mem_map]
    exact ⟨0, List.mem_range.2 k_pos, rfl⟩
  obtain ⟨row, member, order⟩ := List.mem_map.1 first
  obtain ⟨row_member, generation⟩ := List.mem_filter.1 member
  rw [hasPhase, List.any_eq_true]
  refine ⟨row, row_member, ?_⟩
  rw [Bool.and_eq_true]
  exact ⟨generation, beq_iff_eq.2 order⟩

/-- The row of an incident goes in if its window is in order and its identifier is not in use. -/
theorem insertIncident_of_phase {s : Store} {i : Incident} (phase : s.hasPhase i.phase = true) :
    s.insertIncident i.row =
      if boundsInOrder i.row.beganAt i.row.endedAt then
        if s.hasIncident i.id then .error (.unique ["incidents.incident_id"])
        else .ok { s with incidents := s.incidents.insert i.row }
      else .error (.check windowRule) := by
  have in_use : (s.incidents.rows.any fun row => row.id.isSome && row.id == i.row.id) =
      s.hasIncident i.id := by
    rw [hasIncident]
    refine congrArg (List.any s.incidents.rows) (funext fun row => ?_)
    cases same : row.id <;> simp [Incident.row]
  have known : (s.phases.rows.any fun p =>
      p.generation == i.row.generation && p.order == i.row.order) = true := phase
  rw [insertIncident, in_use, known]
  cases boundsInOrder i.row.beganAt i.row.endedAt <;> rfl

/-! ## Stages of a write -/

/-- What a creation writes once the phase is known: the row, then the impacts. -/
def insertion (s : Store) (i : Incident) (impacts : List Impact) : Outcome Incident :=
  .ofWrite s (do
    let inserted ← during "create_incident" i.id.text (s.insertIncident i.row)
    let next ← during "create_incident" i.id.text (inserted.replaceImpacts i.id impacts)
    return (i.columns, next)) IncidentColumns.incident

/-- What an update writes over the row and the impacts of an incident. -/
def replacement (s : Store) (i : Incident) (impacts : List Impact) : Outcome Incident :=
  .ofWrite s (do
    let revised ← during "update_incident" i.id.text (s.reviseIncident i.id i.row)
    let next ← during "update_incident" i.id.text (revised.replaceImpacts i.id impacts)
    return (i.columns, next)) IncidentColumns.incident

section Stages

variable {s : Store} {input : NewIncident} (accepted : input.Accepted)

include accepted

/-- A creation without a flaw looks for what is missing, chooses a phase and writes. -/
theorem createIncident_stages (id : Uuid) {current : UInt32}
    (highest : s.currentGeneration = .ok current) :
    s.createIncident id input =
      match s.firstMissing? input.references with
      | some missing => .fail s (.refused missing.notFound)
      | none =>
        if input.phase = none ∧ current = 0 then .fail s (.refused (.generationNotFound 0))
        else s.insertion (input.withId id (input.phase.getD ⟨current, 0⟩)) input.impacts := by
  have passed : input.validate = .ok () := NewIncident.validate_ok_iff.2 accepted
  have references := checkReferences_eq s input
  cases missing : s.firstMissing? input.references with
  | some reference =>
    rw [missing] at references
    rw [createIncident, passed, references]
    rfl
  | none =>
    rw [missing] at references
    cases phase_given : input.phase with
    | some phase =>
      rw [createIncident, passed, references, phase_given]
      rfl
    | none =>
      have largest : s.maxGeneration = .ok current := during_ok_iff.1 highest
      have chosen : s.initialPhase "create_incident" id.text none =
          if current = 0 then .error (.refused (.generationNotFound 0)) else .ok ⟨current, 0⟩ := by
        rw [initialPhase, largest, during_ok, ok_bind]
        split <;> rfl
      rw [createIncident, passed, references, phase_given, chosen]
      by_cases first : current = 0
      · simp only [first, and_self, if_true]
        rfl
      · simp only [first, and_false, if_false]
        rfl

/-- An update without a flaw looks for what is missing and writes. -/
theorem updateIncident_stages {old : Incident} (found : s.findIncident old.id = some old.row) :
    s.updateIncident old.id input =
      match s.firstMissing? input.references with
      | some missing => .fail s (.refused missing.notFound)
      | none =>
        s.replacement (input.withId old.id (input.phase.getD old.phase)) input.impacts := by
  have passed : input.validate = .ok () := NewIncident.validate_ok_iff.2 accepted
  have references := checkReferences_eq s input
  cases missing : s.firstMissing? input.references with
  | some reference =>
    rw [missing] at references
    rw [updateIncident, passed, found, references]
    rfl
  | none =>
    rw [missing] at references
    rw [updateIncident, passed, found, references]
    dsimp only
    rw [old.revise_row]
    rfl

end Stages

section Phases

variable {s : Store} {input : NewIncident} (resolved : s.firstMissing? input.references = none)

include resolved

/-- A phase that is given exists, once nothing is missing. -/
theorem hasPhase_getD {default : PhaseRef}
    (otherwise : input.phase = none → s.hasPhase default = true) :
    s.hasPhase (input.phase.getD default) = true := by
  have references := checkReferences_eq s input
  rw [resolved] at references
  cases given : input.phase with
  | none => exact otherwise given
  | some phase => exact (checkReferences_ok references).1 phase given

/-- The phase that is chosen for a new incident exists. -/
theorem Consistent.hasPhase_initial (h : s.Consistent) {current : UInt32}
    (highest : s.currentGeneration = .ok current)
    (chosen : ¬ (input.phase = none ∧ current = 0)) :
    s.hasPhase (input.phase.getD ⟨current, 0⟩) = true := by
  apply hasPhase_getD resolved
  intro omitted
  obtain ⟨log, logged⟩ := h.phaseLog
  exact logged.dense.hasPhase_first highest fun first => chosen ⟨omitted, first⟩

end Phases

namespace Consistent

variable {s : Store} (h : s.Consistent)

include h

/-- An incident on the scale, in order and under a phase that exists goes in. -/
theorem insertion_eq {i : Incident} {impacts : List Impact}
    (times : i.TimesIn Instant.FourDigitYear) (phase : s.hasPhase i.phase = true)
    (scale : ∀ impact ∈ impacts, impact.severity.toNat ≤ 100) :
    s.insertion i impacts =
      if boundsInOrder i.row.beganAt i.row.endedAt then
        if s.hasIncident i.id then .fail s (idInUse i.id)
        else ⟨.ok i.kept, s.withIncident i impacts⟩
      else .fail s (windowCrossed "create_incident" i.id) := by
  rw [insertion, insertIncident_of_phase phase]
  by_cases order : boundsInOrder i.row.beganAt i.row.endedAt = true
  case neg =>
    rw [if_neg order, if_neg order]
    rfl
  rw [if_pos order, if_pos order]
  by_cases in_use : s.hasIncident i.id = true
  · rw [if_pos in_use, if_pos in_use]
    rfl
  · have filled := replaceImpacts_of_scale (s := { s with
      incidents := s.incidents.insert i.row }) h.unblocked scale i.id
    have read := Incident.incident_columns times
    rw [if_neg in_use, if_neg in_use, during_ok, ok_bind, filled, during_ok, ok_bind]
    change Outcome.mk i.columns.incident _ = _
    rw [read]
    rfl

/-- An incident on the scale, in order and under a phase that exists takes the place of the one
with its identifier. -/
theorem replacement_eq {i : Incident} {impacts : List Impact}
    (times : i.TimesIn Instant.FourDigitYear) (phase : s.hasPhase i.phase = true)
    (scale : ∀ impact ∈ impacts, impact.severity.toNat ≤ 100) :
    s.replacement i impacts =
      if boundsInOrder i.row.beganAt i.row.endedAt then ⟨.ok i.kept, s.withRevised i impacts⟩
      else .fail s (windowCrossed "update_incident" i.id) := by
  rw [replacement, reviseIncident_of_phase phase]
  by_cases order : boundsInOrder i.row.beganAt i.row.endedAt = true
  case neg =>
    rw [if_neg order, if_neg order]
    rfl
  have filled := replaceImpacts_of_scale (s := { s with
    incidents := s.incidents.map fun row => if row.id = some i.id.text then i.row else row })
    h.unblocked scale i.id
  have read := Incident.incident_columns times
  rw [if_pos order, if_pos order, during_ok, ok_bind, filled, during_ok, ok_bind]
  change Outcome.mk i.columns.incident _ = _
  rw [read]
  rfl

variable {input : NewIncident} (given : input.TimesIn Instant.FourDigitYear)
  (accepted : input.Accepted) (scale : ∀ impact ∈ input.impacts, impact.severity.toNat ≤ 100)

include given accepted scale

/-- The creation of an incident without a flaw ends as the table says. -/
theorem createIncident_eq (id : Uuid) {current : UInt32}
    (highest : s.currentGeneration = .ok current) :
    s.createIncident id input = s.creation id current input := by
  rw [createIncident_stages accepted id highest, creation]
  cases resolved : s.firstMissing? input.references with
  | some missing => rfl
  | none =>
    by_cases first : input.phase = none ∧ current = 0
    · simp only [if_pos first]
    · have phase := h.hasPhase_initial resolved highest first
      simp only [if_neg first, ← ite_not (p := input.Crossed), ← boundsInOrder_iff given]
      exact h.insertion_eq given phase scale

/-- The update of an incident with content without a flaw ends as the table says. -/
theorem updateIncident_eq {old : Incident} (found : s.findIncident old.id = some old.row) :
    s.updateIncident old.id input = s.revision old input := by
  rw [updateIncident_stages accepted found, revision]
  cases resolved : s.firstMissing? input.references with
  | some missing => rfl
  | none =>
    have kept : s.hasPhase old.phase = true := by
      obtain ⟨i, same, -, phase⟩ := h.exists_of_findIncident found
      exact Eq.subst (motive := fun row => s.hasPhaseOf row = true) same.symm phase
    simp only [← ite_not (p := input.Crossed), ← boundsInOrder_iff given]
    exact h.replacement_eq given (hasPhase_getD resolved fun _ => kept) scale

end Consistent

/-- An incident that exists is found as the row of an incident, under a phase that exists. -/
theorem Consistent.exists_of_hasIncident {s : Store} (h : s.Consistent) {id : Uuid}
    (known : s.hasIncident id = true) :
    ∃ old : Incident, old.id = id ∧ s.findIncident id = some old.row ∧
      s.hasPhase old.phase = true := by
  rw [← findIncident_isSome] at known
  obtain ⟨row, found⟩ := Option.isSome_iff_exists.1 known
  obtain ⟨old, rfl, same, phase⟩ := h.exists_of_findIncident found
  exact ⟨old, same, found, phase⟩

theorem updateIncident_of_unknown {s : Store} {id : Uuid} {input : NewIncident}
    (accepted : input.Accepted) (unknown : s.hasIncident id = false) :
    s.updateIncident id input = .fail s (.refused (.incidentNotFound id)) := by
  have found : s.findIncident id = none := by
    rw [← Option.not_isSome_iff_eq_none, findIncident_isSome, unknown]
    exact Bool.false_ne_true
  rw [updateIncident, NewIncident.validate_ok_iff.2 accepted, found]
  rfl

/-! ## The outcomes -/

/-- A call fails because of what its caller gave. -/
def RefusesContent (o : Outcome Incident) : Prop :=
  ∃ fault, o.answer = .error fault ∧ fault.kind = .invalidArgument

theorem refusesContent_fail {s : Store} {fault : Fault} :
    RefusesContent (.fail s fault) ↔ fault.kind = .invalidArgument := by
  constructor
  · intro refuses
    rcases refuses with ⟨other, same, kind⟩
    cases same
    exact kind
  · intro kind
    exact ⟨fault, rfl, kind⟩

theorem not_refusesContent_ok {i : Incident} {next : Store} : ¬ RefusesContent ⟨.ok i, next⟩ := by
  intro refuses
  rcases refuses with ⟨fault, failed, -⟩
  cases failed

theorem kind_notFound (missing : Reference) : missing.notFound.kind = .notFound := by
  cases missing <;> rfl

theorem not_refusesContent_missing {s : Store} (missing : Reference) :
    ¬ RefusesContent (.fail s (.refused missing.notFound)) := by
  rw [refusesContent_fail, Fault.kind, kind_notFound]
  exact nofun

/-- The tables have no place for content that breaks a rule. -/
theorem not_refusesContent_creation (s : Store) (id : Uuid) (current : UInt32)
    (input : NewIncident) : ¬ RefusesContent (s.creation id current input) := by
  unfold creation
  split
  · exact not_refusesContent_missing _
  · split
    · exact mt refusesContent_fail.1 nofun
    · split
      · exact mt refusesContent_fail.1 nofun
      · split
        · exact mt refusesContent_fail.1 nofun
        · exact not_refusesContent_ok

theorem not_refusesContent_revision (s : Store) (old : Incident) (input : NewIncident) :
    ¬ RefusesContent (s.revision old input) := by
  unfold revision
  split
  · exact not_refusesContent_missing _
  · split
    · exact mt refusesContent_fail.1 nofun
    · exact not_refusesContent_ok

/-- Content with a flaw is refused with the rule that it breaks, before the store is looked at. -/
theorem exists_fail_of_flawed {input : NewIncident} (flawed : input.Flawed) (s : Store)
    (id : Uuid) :
    ∃ violation, s.createIncident id input = .fail s (.refused (.invalid violation)) ∧
      s.updateIncident id input = .fail s (.refused (.invalid violation)) := by
  cases refused : input.validate with
  | ok _ => exact absurd flawed (NewIncident.accepted_iff.1 (NewIncident.validate_ok_iff.1 refused))
  | error error =>
    obtain ⟨violation, rfl⟩ := NewIncident.exists_invalid refused
    rw [createIncident, updateIncident, refused]
    exact ⟨violation, rfl, rfl⟩

theorem refusesContent_of_flawed {input : NewIncident} (flawed : input.Flawed) (s : Store)
    (id : Uuid) :
    RefusesContent (s.createIncident id input) ∧ RefusesContent (s.updateIncident id input) := by
  obtain ⟨violation, creates, revises⟩ := exists_fail_of_flawed flawed s id
  rw [creates, revises]
  exact ⟨⟨_, rfl, rfl⟩, ⟨_, rfl, rfl⟩⟩

/-- In every reachable store, for instants in years of four digits and impacts on the scale: a write
of an incident fails with a bad argument exactly if the content has a flaw. Otherwise a creation
ends as the table says, and so does an update of an incident that exists; an update of any other
finds no incident. The two constraints of the table are conflicts, and that on windows is kept by
all content without a flaw whose leap seconds lie at the end of a minute. -/
theorem incident_write_outcomes {s : Store} (reachable : s.Reachable) {input : NewIncident}
    (given : input.TimesIn Instant.FourDigitYear)
    (scale : ∀ impact ∈ input.impacts, impact.severity.toNat ≤ 100) (id : Uuid) :
    (RefusesContent (s.createIncident id input) ↔ input.Flawed) ∧
      (RefusesContent (s.updateIncident id input) ↔ input.Flawed) ∧
      (idInUse id).kind = .conflict ∧
      (∀ operation, (windowCrossed operation id).kind = .conflict) ∧
      (input.TimesIn Instant.Regular → ¬ input.Flawed → ¬ input.Crossed) ∧
      (¬ input.Flawed →
        (∃ current, s.currentGeneration = .ok current ∧
          s.createIncident id input = s.creation id current input) ∧
        (s.hasIncident id = false →
          s.updateIncident id input = .fail s (.refused (.incidentNotFound id))) ∧
        (s.hasIncident id = true →
          ∃ old : Incident, old.id = id ∧ s.findIncident id = some old.row ∧
            s.updateIncident id input = s.revision old input)) := by
  obtain ⟨operations, rfl⟩ := reachable
  have consistent := consistent_run .empty operations
  obtain ⟨log, logged⟩ := consistent.phaseLog
  have highest := logged.currentGeneration_eq
  generalize empty.run operations = s at consistent highest
  have creates (sound : ¬ input.Flawed) :=
    consistent.createIncident_eq given (NewIncident.accepted_iff.2 sound) scale id highest
  have absent (sound : ¬ input.Flawed) (unknown : s.hasIncident id = false) :=
    updateIncident_of_unknown (NewIncident.accepted_iff.2 sound) unknown
  have present (sound : ¬ input.Flawed) (known : s.hasIncident id = true) :
      ∃ old : Incident, old.id = id ∧ s.findIncident id = some old.row ∧
        s.updateIncident id input = s.revision old input := by
    rw [← findIncident_isSome] at known
    obtain ⟨row, found⟩ := Option.isSome_iff_exists.1 known
    obtain ⟨old, rfl, rfl, -⟩ := consistent.exists_of_findIncident found
    exact ⟨old, rfl, found,
      consistent.updateIncident_eq given (NewIncident.accepted_iff.2 sound) scale found⟩
  refine ⟨⟨?_, fun flawed => (refusesContent_of_flawed flawed s id).1⟩,
    ⟨?_, fun flawed => (refusesContent_of_flawed flawed s id).2⟩, rfl, fun _ => rfl,
    fun regular sound => not_crossed_of_accepted (NewIncident.accepted_iff.2 sound) regular,
    fun sound => ⟨⟨_, highest, creates sound⟩, absent sound, present sound⟩⟩
  · intro refused
    by_contra sound
    rw [creates sound] at refused
    exact not_refusesContent_creation s id _ input refused
  · intro refused
    by_contra sound
    cases known : s.hasIncident id with
    | false =>
      rw [absent sound known, refusesContent_fail] at refused
      cases refused
    | true =>
      obtain ⟨old, -, -, revises⟩ := present sound known
      rw [revises] at refused
      exact not_refusesContent_revision s old input refused

/-- A window that begins in a leap second inside a minute and ends in the second that this is shown
as has no flaw and refers to nothing that is missing. Yet it is kept with its end before its
beginning, so a creation under a free identifier and an update end in a conflict. -/
theorem incident_writes_conflict_inside_minute :
    let input : NewIncident :=
      { outageContent with
        beganAt := Instant.insideMinute, endedAt := some Instant.halfPastThirteen }
    let s := empty.run outage
    input.TimesIn Instant.FourDigitYear ∧
      (∀ impact ∈ input.impacts, impact.severity.toNat ≤ 100) ∧ ¬ input.Flawed ∧
      s.firstMissing? input.references = none ∧ s.currentGeneration = .ok 1 ∧
      s.hasIncident (Uuid.ofNat 5) = false ∧ s.hasIncident (Uuid.ofNat 3) = true ∧
      (s.createIncident (Uuid.ofNat 5) input).answer =
        .error (windowCrossed "create_incident" (Uuid.ofNat 5)) ∧
      (s.updateIncident (Uuid.ofNat 3) input).answer =
        .error (windowCrossed "update_incident" (Uuid.ofNat 3)) ∧
      (windowCrossed "create_incident" (Uuid.ofNat 5)).kind = .conflict ∧
      (windowCrossed "update_incident" (Uuid.ofNat 3)).kind = .conflict := by
  intro input s
  have sound : ¬ input.Flawed :=
    NewIncident.accepted_iff.1 (NewIncident.validate_ok_iff.1 (by decide))
  exact ⟨by decide, by decide, sound, by decide, by decide, by decide, by decide, by decide,
    by decide, rfl, rfl⟩

/-- An outage cannot be created again under the identifier that it has, and an update of it goes
through and keeps its phase. -/
theorem incident_write_outcomes_in_outage :
    (empty.run outage).Reachable ∧ outageContent.TimesIn Instant.FourDigitYear ∧
      (∀ impact ∈ outageContent.impacts, impact.severity.toNat ≤ 100) ∧ ¬ outageContent.Flawed ∧
      (empty.run outage).createIncident (Uuid.ofNat 3) outageContent =
        .fail (empty.run outage) (idInUse (Uuid.ofNat 3)) ∧
      ((empty.run outage).updateIncident (Uuid.ofNat 3) outageContent).answer =
        .ok (outageContent.withId (Uuid.ofNat 3) ⟨1, 0⟩).kept := by
  have reachable : (empty.run outage).Reachable := ⟨outage, rfl⟩
  have given : outageContent.TimesIn Instant.FourDigitYear := by decide
  have scale : ∀ impact ∈ outageContent.impacts, impact.severity.toNat ≤ 100 := by decide
  have sound : ¬ outageContent.Flawed :=
    NewIncident.accepted_iff.1 (NewIncident.validate_ok_iff.1 (by decide))
  have known : (empty.run outage).hasIncident (Uuid.ofNat 3) = true := by decide
  have resolved : (empty.run outage).firstMissing? outageContent.references = none := by
    decide
  obtain ⟨-, -, -, -, in_order, sound_outcomes⟩ :=
    incident_write_outcomes reachable given scale (Uuid.ofNat 3)
  have in_order : ¬ outageContent.Crossed := in_order (by decide) sound
  obtain ⟨⟨current, highest, created⟩, -, updated⟩ := sound_outcomes sound
  refine ⟨reachable, given, scale, sound, ?_, ?_⟩
  · have first : (empty.run outage).currentGeneration = .ok 1 := by decide
    rw [first] at highest
    cases highest
    rw [created, creation, resolved]
    dsimp only
    rw [if_neg (by decide), if_neg in_order, if_pos known]
  · obtain ⟨old, same, found, revised⟩ := updated known
    have kept : ((empty.run outage).findIncident (Uuid.ofNat 3)).map IncidentRow.phase =
        some (cell32 1, cell32 0) := by decide
    rw [found, Option.map_some, Option.some_inj, IncidentRow.phase, Prod.mk.injEq] at kept
    have phase : old.phase = ⟨1, 0⟩ := by
      rw [← cell32_inj.1 kept.1, ← cell32_inj.1 kept.2]
    have omitted : outageContent.phase = none := rfl
    rw [revised, revision, resolved, omitted, Option.getD_none, same, phase]
    exact congrArg Outcome.answer (if_neg in_order)

end Store

end StatusPage
