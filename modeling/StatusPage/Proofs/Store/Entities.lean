import Mathlib
import StatusPage.Api.Failure
import StatusPage.Proofs.LabelSets
import StatusPage.Proofs.Store.Resolution

/-!
# Entities as callers read them

`read` gives the entity under a key, whatever table its row is in. `Saves` says what it means for
callers that an entity was saved: it comes back under its key, everything else is read as before,
and so are the impacts of every other incident. There is one lemma for each kind of entity, on any
table in which its row is found and those of others are found as before. For labels and impacts,
which are deleted and inserted anew, this comes from `filter_replaced_self` and
`filter_replaced_of_ne`.
-/

namespace StatusPage

open Text Store

namespace Store

open Api (Subject)

/-! ## Labels -/

theorem labelsOf_setLabels_self (s : Store) (id : Uuid) (labels : Labels) :
    (s.setLabels id labels).labelsOf id.text = labels := by
  have owned : ∀ l ∈ labelRows id labels, l.component = id.text := by
    intro l member
    obtain ⟨p, -, rfl⟩ := List.mem_map.1 member
    rfl
  rw [labelsOf, setLabels]
  dsimp only
  rw [Table.rows_insertAll, Table.rows_filter, filter_replaced_self owned, labelRows, List.map_map]
  exact (congrArg Labels.ofList (List.map_id labels.entries)).trans labels.ofList_entries

theorem labelsOf_setLabels_of_ne (s : Store) {id other : Uuid} (ne : other ≠ id)
    (labels : Labels) : (s.setLabels id labels).labelsOf other.text = s.labelsOf other.text := by
  have owned : ∀ l ∈ labelRows id labels, l.component = id.text := by
    intro l member
    obtain ⟨p, -, rfl⟩ := List.mem_map.1 member
    rfl
  rw [labelsOf, setLabels]
  dsimp only
  rw [Table.rows_insertAll, Table.rows_filter,
    filter_replaced_of_ne (fun same => ne (Uuid.text_injective same).symm) owned]
  rfl

/-! ## Entities -/

/-- An entity as callers read it. -/
inductive Entity where
  | component (c : Component)
  | impactType (t : ImpactType)
  | severity (v : Severity)
  | incident (i : Incident)
  | update (u : IncidentUpdate)
  deriving DecidableEq

/-- The key under which an entity is read. -/
def Entity.subject : Entity → Subject
  | .component c => .component c.id
  | .impactType t => .impactType t.id
  | .severity v => .severity v.displayName
  | .incident i => .incident i.id
  | .update u => .update u.incident u.order

/-- The entity that callers read under a key. -/
def read (s : Store) : Subject → Except Fault (Option Entity)
  | .component id => (s.getComponent id).map (Option.map .component)
  | .impactType id => (s.getImpactType id).map (Option.map .impactType)
  | .severity name => (s.getSeverity name).map (Option.map .severity)
  | .incident id => (s.getIncident id).map (Option.map .incident)
  | .update id order => (s.getUpdate id order).map (Option.map .update)

/-- What it means for callers that an entity was saved, and that a severity lost its name for it. -/
structure Saves (s : Store) (entity : Entity) (former : Option String) (next : Store) : Prop where
  saved : next.read entity.subject = .ok (some entity)
  gone : ∀ name ∈ former, next.read (.severity name) = .ok none
  others : ∀ subject, subject ≠ entity.subject → (∀ name ∈ former, subject ≠ .severity name) →
    next.read subject = s.read subject
  impacts : ∀ id, entity.subject ≠ .incident id → ∀ t,
    next.affectedComponents id t = s.affectedComponents id t
  phases : ∀ requested, next.listPhases requested = s.listPhases requested

/-! ## One entity of each kind -/

section Kinds

variable {s : Store}

/-- A component whose row is found is read with the labels that were set for it. -/
theorem saves_component {table : Table ComponentRow} {c : Component}
    (found : (table.rows.find? fun r => r.id == some c.id.text).map (·.displayName) =
      some c.displayName)
    (others : ∀ id, id ≠ c.id → (table.rows.find? fun r => r.id == some id.text) =
      s.components.rows.find? fun r => r.id == some id.text) :
    Saves s (.component c) none (({ s with components := table } : Store).setLabels c.id c.labels)
    where
  saved := by
    obtain ⟨row, row_found, name⟩ := Option.map_eq_some_iff.1 found
    have labels := labelsOf_setLabels_self { s with components := table } c.id c.labels
    have rows : (Store.setLabels { s with components := table } c.id c.labels).components = table :=
      rfl
    rw [Entity.subject, read, getComponent, rows, row_found, Option.map_some, labels, name]
    rfl
  gone := nofun
  others := by
    intro subject other _
    cases subject with
    | component id =>
      have ne : id ≠ c.id := fun same => other (congrArg Subject.component same)
      have labels := labelsOf_setLabels_of_ne { s with components := table } ne c.labels
      have rows : (Store.setLabels { s with components := table } c.id c.labels).components =
          table := rfl
      rw [read, getComponent, rows, others id ne, labels]
      rfl
    | _ => rfl
  impacts := fun _ _ _ => rfl
  phases := fun _ => rfl

theorem saves_impactType {table : Table ImpactTypeRow} {t : ImpactType}
    (found : (table.rows.find? fun r => r.id == some t.id.text) =
      some ⟨some t.id.text, t.displayName, t.description⟩)
    (others : ∀ id, id ≠ t.id → (table.rows.find? fun r => r.id == some id.text) =
      s.impactTypes.rows.find? fun r => r.id == some id.text) :
    Saves s (.impactType t) none { s with impactTypes := table } where
  saved := by
    rw [Entity.subject, read, getImpactType]
    dsimp only
    rw [found]
    rfl
  gone := nofun
  others := by
    intro subject other _
    cases subject with
    | impactType id =>
      have ne : id ≠ t.id := fun same => other (congrArg Subject.impactType same)
      rw [read, getImpactType]
      dsimp only
      rw [others id ne]
      rfl
    | _ => rfl
  impacts := fun _ _ _ => rfl
  phases := fun _ => rfl

theorem saves_severity {table : Table SeverityRow} {v : Severity} {former : Option String}
    (found : (table.rows.find? fun r => r.displayName == some v.displayName) =
      some ⟨some v.displayName, cell8 v.value⟩)
    (gone : ∀ name ∈ former, (table.rows.find? fun r => r.displayName == some name) = none)
    (others : ∀ name, name ≠ v.displayName → (∀ old ∈ former, name ≠ old) →
      (table.rows.find? fun r => r.displayName == some name) =
        s.severities.rows.find? fun r => r.displayName == some name) :
    Saves s (.severity v) former { s with severities := table } where
  saved := by
    rw [Entity.subject, read, getSeverity_of_found found]
    rfl
  gone := by
    intro name member
    rw [read, getSeverity]
    dsimp only
    rw [gone name member]
    rfl
  others := by
    intro subject other kept
    cases subject with
    | severity name =>
      have ne : name ≠ v.displayName := fun same => other (congrArg Subject.severity same)
      have same := others name ne fun old member same =>
        kept old member (congrArg Subject.severity same)
      rw [read, getSeverity]
      dsimp only
      rw [same]
      rfl
    | _ => rfl
  impacts := fun _ _ _ => rfl
  phases := fun _ => rfl

/-- The impacts of an incident are read as before while its row and theirs are. -/
theorem affectedComponents_congr {next : Store} (h : s.Consistent) (h_next : next.Consistent)
    {id : Uuid} (row : next.findIncident id = s.findIncident id)
    (impacts : next.impactsOf id = s.impactsOf id) (t : Option Instant) :
    next.affectedComponents id t = s.affectedComponents id t := by
  have known : next.hasIncident id = s.hasIncident id := by
    rw [← findIncident_isSome, ← findIncident_isSome, row]
  rw [affectedComponents, affectedComponents, known]
  cases found : s.findIncident id with
  | none =>
    have unknown : ¬ s.hasIncident id = true := by
      rw [← findIncident_isSome, found]
      exact Bool.false_ne_true
    rw [if_neg unknown, if_neg unknown]
  | some old =>
    rw [h.filter_activeImpacts found t, h_next.filter_activeImpacts (row.trans found) t, impacts]

theorem saves_incident (h : s.Consistent) {table : Table IncidentRow} {i : Incident}
    {impacts : List Impact}
    (next : Consistent { s with incidents := table, impacts := s.impactsFor i.id impacts })
    (times : i.TimesIn Instant.FourDigitYear)
    (found : (table.rows.find? fun r => r.id == some i.id.text) = some i.row)
    (others : ∀ id, id ≠ i.id →
      (table.rows.find? fun r => r.id == some id.text) = s.findIncident id) :
    Saves s (.incident i.kept) none
      { s with incidents := table, impacts := s.impactsFor i.id impacts } where
  saved := by
    have answer := getIncident_of_found
      (s := { s with incidents := table, impacts := s.impactsFor i.id impacts }) times found
    change Except.map _ (getIncident _ i.id) = _
    rw [answer]
    rfl
  gone := nofun
  others := by
    intro subject other _
    cases subject with
    | incident id =>
      have ne : id ≠ i.id := fun same => other (congrArg Subject.incident same)
      have same := others id ne
      rw [read, getIncident, findIncident]
      dsimp only
      rw [same]
      rfl
    | _ => rfl
  impacts := by
    intro id other t
    have ne : i.id ≠ id := fun same => other (congrArg Subject.incident same)
    exact affectedComponents_congr h next (others id ne.symm)
      (filter_impactsFor_of_ne s ne impacts) t
  phases := fun _ => rfl

theorem saves_update {table : Table UpdateRow} {u : IncidentUpdate}
    (year : u.createdAt.FourDigitYear)
    (found : (table.rows.find? fun r => r.isAt u.incident u.order) = some u.row)
    (others : ∀ id order, ¬ (id = u.incident ∧ order = u.order) →
      (table.rows.find? fun r => r.isAt id order) =
        s.updates.rows.find? fun r => r.isAt id order) :
    Saves s (.update { u with createdAt := u.createdAt.kept }) none
      { s with updates := table } where
  saved := by
    rw [Entity.subject, read, getUpdate]
    dsimp only
    rw [found]
    dsimp only
    rw [IncidentUpdate.update_row year]
    rfl
  gone := nofun
  others := by
    intro subject other _
    cases subject with
    | update id order =>
      have ne : ¬ (id = u.incident ∧ order = u.order) := by
        rintro ⟨rfl, rfl⟩
        exact other rfl
      rw [read, getUpdate]
      dsimp only
      rw [others id order ne]
      rfl
    | _ => rfl
  impacts := fun _ _ _ => rfl
  phases := fun _ => rfl

end Kinds

end Store

end StatusPage
