import Mathlib
import StatusPage.Proofs.Store.Reading

/-!
# The last write of an incident

`lastWrite` is the content that the last successful creation or update of an incident in a run gave
it. Its impacts are the ones that the store keeps for the incident: `impactsOf_run` carries this
through a run from any store of which it holds, one operation at a time.
-/

namespace StatusPage.Store

open Text

/-- The content that an operation gives an incident if it succeeds. -/
def Operation.contentFor (m : Moment) (id : Uuid) : Operation → Option NewIncident
  | .createIncident input => if m.id = id then some input else none
  | .updateIncident target input => if target = id then some input else none
  | _ => none

/-- The content that an operation has given an incident, seen from its outcome. -/
def Outcome.contentFor {operation : Operation} (o : Outcome operation.Result) (m : Moment)
    (id : Uuid) : Option NewIncident :=
  if o.answer.isOk then operation.contentFor m id else none

/-- The content that the last successful creation or update of an incident gave it. -/
def lastWrite (id : Uuid) : Store → List (Moment × Operation) → Option NewIncident
  | _, [] => none
  | s, (m, operation) :: rest =>
    let o := operation.perform m s
    (lastWrite id o.store rest).or (o.contentFor m id)

/-- The rows of impacts of an incident. -/
def impactsOf (s : Store) (id : Uuid) : List ImpactRow :=
  s.impacts.rows.filter fun m => m.incident == id.text

/-- The impacts that a store keeps for an incident are those of some content, if there is such an
incident. -/
def KeepsImpacts (s : Store) (id : Uuid) (content : Option NewIncident) : Prop :=
  s.hasIncident id = true → ∃ input : NewIncident, content = some input ∧ input.Accepted ∧
    s.impactsOf id = input.impacts.map (impactRow id)

/-! ## Impacts after a write -/

theorem incident_of_impactRows {id : Uuid} {impacts : List Impact} :
    ∀ m ∈ impacts.map (impactRow id), m.incident = id.text := by
  intro m member
  obtain ⟨impact, -, rfl⟩ := List.mem_map.1 member
  rfl

theorem filter_impactsFor_self (s : Store) (id : Uuid) (impacts : List Impact) :
    ((s.impactsFor id impacts).rows.filter fun m => m.incident == id.text) =
      impacts.map (impactRow id) := by
  rw [impactsFor, Table.rows_insertAll, Table.rows_filter]
  exact filter_replaced_self incident_of_impactRows

theorem filter_rows_of_ne {id other : Uuid} (ne : other ≠ id) (rows : List ImpactRow) :
    ((rows.filter fun m => m.incident ≠ other.text).filter fun m => m.incident == id.text) =
      rows.filter fun m => m.incident == id.text :=
  filter_key_of_ne (fun same => ne (Uuid.text_injective same)) rows

theorem filter_impactsFor_of_ne (s : Store) {id other : Uuid} (ne : other ≠ id)
    (impacts : List Impact) :
    ((s.impactsFor other impacts).rows.filter fun m => m.incident == id.text) = s.impactsOf id := by
  rw [impactsFor, Table.rows_insertAll, Table.rows_filter]
  exact filter_replaced_of_ne (fun same => ne (Uuid.text_injective same)) incident_of_impactRows

/-! ## One operation -/

theorem Operation.contentFor_of_isRead {operation : Operation} (reads : operation.isRead = true)
    (m : Moment) (id : Uuid) : operation.contentFor m id = none := by
  cases operation with
  | createIncident => cases reads
  | updateIncident => cases reads
  | _ => rfl

theorem Outcome.contentFor_ok {operation : Operation} (result : operation.Result) (next : Store)
    (m : Moment) (id : Uuid) :
    Outcome.contentFor ⟨.ok result, next⟩ m id = operation.contentFor m id := rfl

namespace KeepsImpacts

variable {s : Store} {id : Uuid} {content : Option NewIncident}

/-- A store with the same incidents and impacts keeps the same, if no content was given. -/
theorem of_eq (h : s.KeepsImpacts id content) {next : Store} {given : Option NewIncident}
    (incidents : next.incidents = s.incidents) (impacts : next.impacts = s.impacts)
    (nothing : given = none) : next.KeepsImpacts id (given.or content) := by
  rw [nothing, Option.none_or]
  rw [KeepsImpacts, hasIncident, impactsOf, incidents, impacts]
  exact h

/-- A store in which one incident has the impacts of a content keeps them for it, and those that
were there for every other incident. -/
theorem of_write (h : s.KeepsImpacts id content) (target : Uuid) {input : NewIncident}
    {next : Store} (accepted : input.Accepted)
    (impacts : next.impacts = s.impactsFor target input.impacts)
    (known : next.hasIncident id = true → target ≠ id → s.hasIncident id = true) :
    next.KeepsImpacts id ((if target = id then some input else none).or content) := by
  intro present
  rcases eq_or_ne target id with rfl | other
  · refine ⟨input, by rw [if_pos rfl, Option.some_or], accepted, ?_⟩
    rw [impactsOf, impacts]
    exact filter_impactsFor_self s target input.impacts
  · obtain ⟨last, given, last_accepted, rows⟩ := h (known present other)
    refine ⟨last, by rw [if_neg other, Option.none_or, given], last_accepted, ?_⟩
    rw [← rows, impactsOf, impacts]
    exact filter_impactsFor_of_ne s other input.impacts

/-- An operation in years of four digits leaves the impacts of the content that it gave, or else
those that were there. -/
theorem effect (h : s.KeepsImpacts id content) (times : s.IncidentTimes Instant.FourDigitYear)
    {m : Moment} {operation : Operation} (given : operation.TimesIn Instant.FourDigitYear)
    {o : Outcome operation.Result} (done : Effect m s operation o) :
    o.store.KeepsImpacts id ((o.contentFor m id).or content) := by
  cases done with
  | read reads =>
    apply h.of_eq rfl rfl
    rw [Outcome.contentFor, Operation.contentFor_of_isRead reads, ite_self]
  | failed => exact h.of_eq rfl rfl rfl
  | @createIncident input phase accepted =>
    have answer : (input.withId m.id phase).columns.incident =
        .ok (input.withId m.id phase).kept := Incident.incident_columns given
    rw [answer, Outcome.contentFor_ok, Operation.contentFor]
    refine h.of_write m.id accepted ?_ ?_
    · rfl
    · intro present other
      have listed : some id.text ∈ incidentKeys { s with
          incidents := s.incidents.insert (input.withId m.id phase).row } :=
        hasIncident_iff.1 present
      rw [incidentKeys_insert] at listed
      rcases List.mem_append.1 listed with old | new
      · exact hasIncident_iff.2 old
      · have same := Uuid.text_injective (Option.some.inj (List.mem_singleton.1 new))
        exact absurd same.symm other
  | @updateIncident target input old columns accepted admitted found exists_phase read =>
    obtain ⟨i, rfl, rfl, answer⟩ := times.incident_of_revise given found read
    rw [answer, Outcome.contentFor_ok, Operation.contentFor]
    refine h.of_write i.id accepted ?_ ?_
    · rfl
    · intro present _
      have listed : some id.text ∈ incidentKeys { s with
          incidents := s.incidents.map fun row =>
            if row.id = some i.id.text then i.row.revise input else row } :=
        hasIncident_iff.1 present
      rw [incidentKeys_replace s i.id _ rfl] at listed
      exact hasIncident_iff.2 listed
  | @deleteIncident target =>
    intro present
    have listed : some id.text ∈
        (s.incidents.filter fun i => i.id ≠ some target.text).rows.map (·.id) :=
      hasIncident_iff.1 present
    rw [keys_filter_ne] at listed
    obtain ⟨old, other⟩ := List.mem_filter.1 listed
    have ne : target ≠ id := by
      rintro rfl
      simp at other
    obtain ⟨last, known, last_accepted, rows⟩ := h (hasIncident_iff.2 old)
    refine ⟨last, by simp [Outcome.contentFor, Operation.contentFor, known], last_accepted, ?_⟩
    rw [← rows, impactsOf, Table.rows_filter]
    exact filter_rows_of_ne ne _
  | _ => exact h.of_eq rfl rfl (ite_self none)

end KeepsImpacts

/-! ## Runs -/

/-- What a run leaves of the impacts of an incident are those of its last write, or else those from
before the run. -/
theorem keepsImpacts_run {s : Store} {id : Uuid} {content : Option NewIncident}
    (h : s.KeepsImpacts id content) (times : s.IncidentTimes Instant.FourDigitYear)
    {operations : List (Moment × Operation)}
    (given : ∀ step ∈ operations, step.2.TimesIn Instant.FourDigitYear) :
    (s.run operations).KeepsImpacts id ((lastWrite id s operations).or content) := by
  induction operations generalizing s content with
  | nil => exact h
  | cons step rest ih =>
    obtain ⟨m, operation⟩ := step
    have first := given (m, operation) List.mem_cons_self
    have others : ∀ step ∈ rest, step.2.TimesIn Instant.FourDigitYear :=
      fun step later => given step (List.mem_cons_of_mem _ later)
    have done := perform_effect m s operation
    have rest_kept := ih (h.effect times first done) (times.effect first done) others
    rw [lastWrite, Option.or_assoc]
    exact rest_kept

/-- In a run from the empty store every incident has a last write, and its impacts are the ones that
the store keeps. -/
theorem impacts_follow_lastWrite {operations : List (Moment × Operation)}
    (given : ∀ step ∈ operations, step.2.TimesIn Instant.FourDigitYear) (id : Uuid) :
    (empty.run operations).KeepsImpacts id (lastWrite id empty operations) := by
  have nothing : KeepsImpacts empty id none := by
    intro present
    cases present
  have kept := keepsImpacts_run nothing .empty given
  rwa [Option.or_none] at kept

/-! ## An outage -/

/-- The start of 1970, with an identifier to draw. -/
def momentOf (n : Nat) : Moment := ⟨Instant.epoch, fun _ => Uuid.ofNat n⟩

/-- A component that is out, under identifiers 1 and 2. -/
def outageContent : NewIncident where
  displayName := "Outage"
  description := ""
  beganAt := Instant.epoch
  endedAt := none
  phase := none
  impacts := [⟨Uuid.ofNat 1, Uuid.ofNat 2, 100⟩]

/-- A component, two impact types, a generation of phases and an incident, in this order. -/
def outage : List (Moment × Operation) :=
  [(momentOf 1, .createComponent ⟨"Service", ∅⟩), (momentOf 2, .createImpactType ⟨"Down", ""⟩),
    (momentOf 4, .createImpactType ⟨"Slow", ""⟩),
    (momentOf 0, .createGeneration ["Open", "Closed"]), (momentOf 3, .createIncident outageContent)]

example : lastWrite (Uuid.ofNat 3) empty outage = some outageContent := by decide

end StatusPage.Store
