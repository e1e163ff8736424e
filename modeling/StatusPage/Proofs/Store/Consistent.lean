import Mathlib
import StatusPage.Proofs.Store.Effect
import StatusPage.Proofs.Store.Keys
import StatusPage.Proofs.Store.PhaseLog

/-!
# Consistent stores

`Consistent` is what the tables of a store have to do with each other: no key is given twice, a row
that refers to another one finds it, severities are on the scale, the generations of phases are
without gaps and every name can be seen. The empty store is consistent and every operation keeps a
store so, whatever it is given and whether it succeeds or not (`Consistent.effect`);
`consistent_run` carries this through every run. One lemma for each write says which of the clauses
it has to restore and takes the others over.
-/

namespace StatusPage.Store

open Text

/-- What holds between the tables of a store. -/
structure Consistent (s : Store) : Prop where
  componentKeys : KeyColumn s.componentKeys
  componentNames : ∀ c ∈ s.components.rows, Visible c.displayName
  labelOwners : ∀ l ∈ s.labels.rows, some l.component ∈ s.componentKeys
  labelPairs : (s.labels.rows.map fun l => (l.component, l.key)).Nodup
  labelKeys : ∀ l ∈ s.labels.rows, Visible l.key
  impactTypeKeys : KeyColumn s.impactTypeKeys
  impactTypeNames : ∀ t ∈ s.impactTypes.rows, Visible t.displayName
  severityRows : ∀ r ∈ s.severities.rows, ∃ severity : Severity,
    r = ⟨some severity.displayName, cell8 severity.value⟩ ∧ Visible severity.displayName ∧
      severity.value.toNat ≤ 100
  severityNames : (s.severities.rows.map (·.displayName)).Nodup
  severityValues : (s.severities.rows.map (·.value)).Nodup
  phaseLog : ∃ log, PhaseLog s.phases.rows log
  incidentKeys : KeyColumn s.incidentKeys
  incidentRows : ∀ row ∈ s.incidents.rows, ∃ i : Incident,
    row = i.row ∧ Visible i.displayName ∧ s.hasPhase i.phase = true
  impactRows : ∀ m ∈ s.impacts.rows, ∃ (id : Uuid) (impact : Impact),
    m = impactRow id impact ∧ impact.severity.toNat ≤ 100
  impactIncidents : ∀ m ∈ s.impacts.rows, some m.incident ∈ s.incidentKeys
  impactComponents : ∀ m ∈ s.impacts.rows, some m.component ∈ s.componentKeys
  impactTypes : ∀ m ∈ s.impacts.rows, some m.impactType ∈ s.impactTypeKeys
  impactTriples : (s.impacts.rows.map fun m => (m.incident, m.component, m.impactType)).Nodup
  updateRows : ∀ u ∈ s.updates.rows, ∃ e : IncidentUpdate, u = e.row ∧ Visible e.displayName
  updateIncidents : ∀ u ∈ s.updates.rows, some u.incident ∈ s.incidentKeys
  updateOrders : (s.updates.rows.map fun u => (u.incident, u.order)).Nodup
  unblocked : s.impactsBlocked = false

namespace Consistent

variable {s : Store}

theorem empty : Consistent empty where
  componentKeys := .nil
  componentNames := by simp [Store.empty]
  labelOwners := by simp [Store.empty]
  labelPairs := List.nodup_nil
  labelKeys := by simp [Store.empty]
  impactTypeKeys := .nil
  impactTypeNames := by simp [Store.empty]
  severityRows := by simp [Store.empty]
  severityNames := List.nodup_nil
  severityValues := List.nodup_nil
  phaseLog := ⟨[], .nil⟩
  incidentKeys := .nil
  incidentRows := by simp [Store.empty]
  impactRows := by simp [Store.empty]
  impactIncidents := by simp [Store.empty]
  impactComponents := by simp [Store.empty]
  impactTypes := by simp [Store.empty]
  impactTriples := List.nodup_nil
  updateRows := by simp [Store.empty]
  updateIncidents := by simp [Store.empty]
  updateOrders := List.nodup_nil
  unblocked := rfl

/-! ## Components -/

theorem insertComponent (h : Consistent s) {id : Uuid} {name : String} (visible : Visible name)
    (fresh : s.hasComponent id = false) :
    Consistent { s with components := s.components.insert ⟨some id.text, name⟩ } := by
  have keys := componentKeys_insert s ⟨some id.text, name⟩
  have unused : some id.text ∉ s.componentKeys := by
    rw [← hasComponent_iff, fresh]
    exact Bool.false_ne_true
  refine { h with
    componentKeys := ?_, componentNames := forall_insert h.componentNames visible
    labelOwners := ?_, impactComponents := ?_ }
  · rw [keys]
    exact h.componentKeys.append unused
  · rw [keys]
    exact fun l member => List.mem_append_left _ (h.labelOwners l member)
  · rw [keys]
    exact fun m member => List.mem_append_left _ (h.impactComponents m member)

theorem renameComponent (h : Consistent s) (id : Uuid) {name : String} (visible : Visible name) :
    Consistent { s with
      components := s.components.map fun c =>
        if c.id = some id.text then { c with displayName := name } else c } := by
  have keys := componentKeys_rename s id name
  refine { h with
    componentKeys := ?_, componentNames := forall_replace h.componentNames fun _ _ _ => visible
    labelOwners := ?_, impactComponents := ?_ }
  · rw [keys]
    exact h.componentKeys
  · rw [keys]
    exact h.labelOwners
  · rw [keys]
    exact h.impactComponents

theorem setLabels (h : Consistent s) {id : Uuid} {labels : Labels}
    (known : some id.text ∈ s.componentKeys) (visible : ∀ p ∈ labels.entries, Visible p.1) :
    Consistent (s.setLabels id labels) := by
  have rows : (s.setLabels id labels).labels.rows =
      (s.labels.rows.filter fun l => l.component ≠ id.text) ++ labelRows id labels := by
    simp [Store.setLabels]
  -- A label row is an old one of another component or that of a new pair.
  have all {p : LabelRow → Prop} (old : ∀ l ∈ s.labels.rows, p l)
      (new : ∀ pair ∈ labels.entries, p ⟨id.text, pair.1, pair.2⟩) :
      ∀ l ∈ (s.setLabels id labels).labels.rows, p l := by
    intro l member
    rw [rows] at member
    rcases List.mem_append.1 member with member | member
    · exact old l (List.mem_of_mem_filter member)
    · obtain ⟨pair, entry, rfl⟩ := List.mem_map.1 member
      exact new pair entry
  refine { h with
    labelOwners := all h.labelOwners fun _ _ => known, labelPairs := ?_
    labelKeys := all h.labelKeys visible }
  rw [rows, List.map_append, List.nodup_append]
  refine ⟨nodup_keys_filter h.labelPairs _, ?_, ?_⟩
  · rw [labelRows, List.map_map]
    refine List.Pairwise.map _ ?_ labels.ordered
    intro p q before same
    simp only [Function.comp_apply, Prod.mk.injEq, true_and] at same
    exact String.lt_irrefl _ (same ▸ before)
  · intro pair member other other_member same
    obtain ⟨l, l_member, rfl⟩ := List.mem_map.1 member
    obtain ⟨k, k_member, rfl⟩ := List.mem_map.1 other_member
    obtain ⟨p, -, rfl⟩ := List.mem_map.1 k_member
    simp only [Prod.mk.injEq] at same
    simpa [same.1] using (List.mem_filter.1 l_member).2

theorem deleteComponent (h : Consistent s) {id : Uuid}
    (unused : (s.impacts.rows.any fun m => m.component == id.text) = false) :
    Consistent { s with
      components := s.components.filter fun c => c.id ≠ some id.text
      labels := s.labels.filter fun l => l.component ≠ id.text } := by
  have keys : Store.componentKeys { s with
      components := s.components.filter fun c => c.id ≠ some id.text
      labels := s.labels.filter fun l => l.component ≠ id.text } =
      s.componentKeys.filter fun key => key ≠ some id.text := keys_filter_ne _ _ _
  have kept {component : String} (known : some component ∈ s.componentKeys)
      (other : component ≠ id.text) :
      some component ∈ s.componentKeys.filter fun key => key ≠ some id.text :=
    List.mem_filter.2 ⟨known, by simpa using other⟩
  have label {l : LabelRow} (member : l ∈ (s.labels.filter fun l => l.component ≠ id.text).rows) :
      l ∈ s.labels.rows ∧ l.component ≠ id.text := by
    simpa [mem_filter_rows] using member
  refine { h with
    componentKeys := ?_, componentNames := ?_, labelOwners := ?_, labelPairs := ?_
    labelKeys := fun l member => h.labelKeys l (label member).1, impactComponents := ?_ }
  · rw [keys]
    exact h.componentKeys.filter _
  · intro c member
    exact h.componentNames c (mem_filter_rows.1 member).1
  · rw [keys]
    exact fun l member => kept (h.labelOwners l (label member).1) (label member).2
  · rw [Table.rows_filter]
    exact nodup_keys_filter h.labelPairs _
  · rw [keys]
    simp only [List.any_eq_false, beq_iff_eq] at unused
    exact fun m member => kept (h.impactComponents m member) (unused m member)

/-! ## Impact types -/

theorem insertImpactType (h : Consistent s) {id : Uuid} {name description : String}
    (visible : Visible name) (fresh : s.hasImpactType id = false) :
    Consistent { s with
      impactTypes := s.impactTypes.insert ⟨some id.text, name, description⟩ } := by
  have keys := impactTypeKeys_insert s ⟨some id.text, name, description⟩
  have unused : some id.text ∉ s.impactTypeKeys := by
    rw [← hasImpactType_iff, fresh]
    exact Bool.false_ne_true
  refine { h with
    impactTypeKeys := ?_, impactTypeNames := forall_insert h.impactTypeNames visible
    impactTypes := ?_ }
  · rw [keys]
    exact h.impactTypeKeys.append unused
  · rw [keys]
    exact fun m member => List.mem_append_left _ (h.impactTypes m member)

theorem changeImpactType (h : Consistent s) (id : Uuid) {name description : String}
    (visible : Visible name) :
    Consistent { s with
      impactTypes := s.impactTypes.map fun t =>
        if t.id = some id.text then ⟨t.id, name, description⟩ else t } := by
  have keys := impactTypeKeys_change s id name description
  refine { h with
    impactTypeKeys := ?_, impactTypeNames := forall_replace h.impactTypeNames fun _ _ _ => visible
    impactTypes := ?_ }
  · rw [keys]
    exact h.impactTypeKeys
  · rw [keys]
    exact h.impactTypes

theorem deleteImpactType (h : Consistent s) {id : Uuid}
    (unused : (s.impacts.rows.any fun m => m.impactType == id.text) = false) :
    Consistent { s with
      impactTypes := s.impactTypes.filter fun t => t.id ≠ some id.text } := by
  have keys : Store.impactTypeKeys { s with
      impactTypes := s.impactTypes.filter fun t => t.id ≠ some id.text } =
      s.impactTypeKeys.filter fun key => key ≠ some id.text := keys_filter_ne _ _ _
  refine { h with
    impactTypeKeys := ?_, impactTypeNames := ?_, impactTypes := ?_ }
  · rw [keys]
    exact h.impactTypeKeys.filter _
  · intro t member
    exact h.impactTypeNames t (mem_filter_rows.1 member).1
  · rw [keys]
    simp only [List.any_eq_false, beq_iff_eq] at unused
    exact fun m member =>
      List.mem_filter.2 ⟨h.impactTypes m member, by simpa using unused m member⟩

/-! ## Severities -/

/-- What a severity that clashes with no other row has to itself. -/
theorem severityClash?_eq_none {others : List SeverityRow} {severity : Severity}
    (fresh : severityClash? others severity = none) :
    ∀ r ∈ others, r.value ≠ cell8 severity.value ∧ r.displayName ≠ some severity.displayName := by
  intro r member
  unfold severityClash? at fresh
  split at fresh
  · cases fresh
  · next values =>
    split at fresh
    · cases fresh
    · next names =>
      simp only [List.any_eq_true, beq_iff_eq, not_exists, not_and] at values names
      exact ⟨values r member, names r member⟩

theorem insertSeverity (h : Consistent s) {input : Severity} (visible : Visible input.displayName)
    (scale : input.value.toNat ≤ 100) (fresh : severityClash? s.severities.rows input = none) :
    Consistent { s with
      severities := s.severities.insert ⟨some input.displayName, cell8 input.value⟩ } := by
  have others := severityClash?_eq_none fresh
  refine { h with
    severityRows := forall_insert h.severityRows ⟨input, rfl, visible, scale⟩
    severityNames := nodup_keys_insert h.severityNames ?_
    severityValues := nodup_keys_insert h.severityValues ?_ }
  · exact fun r member => (others r member).2
  · exact fun r member => (others r member).1

theorem changeSeverity (h : Consistent s) {old : String} {input : Severity}
    (visible : Visible input.displayName) (scale : input.value.toNat ≤ 100)
    (fresh : severityClash? (s.severities.rows.filter fun r => r.displayName ≠ some old) input =
      none) :
    Consistent { s with
      severities := s.severities.map fun r =>
        if r.displayName = some old then ⟨some input.displayName, cell8 input.value⟩ else r } := by
  have others : ∀ r ∈ s.severities.rows, r.displayName ≠ some old →
      r.value ≠ cell8 input.value ∧ r.displayName ≠ some input.displayName := by
    intro r member other
    exact severityClash?_eq_none fresh r (List.mem_filter.2 ⟨member, by simpa using other⟩)
  refine { h with
    severityRows := forall_replace h.severityRows fun _ _ _ => ⟨input, rfl, visible, scale⟩
    severityNames := ?_, severityValues := ?_ }
  · rw [Table.rows_map]
    exact nodup_replace h.severityNames h.severityNames
      fun r member other => (others r member other).2
  · rw [Table.rows_map]
    exact nodup_replace h.severityNames h.severityValues
      fun r member other => (others r member other).1

theorem deleteSeverity (h : Consistent s) (name : String) :
    Consistent { s with
      severities := s.severities.filter fun r => r.displayName ≠ some name } := by
  refine { h with severityRows := ?_, severityNames := ?_, severityValues := ?_ }
  · intro r member
    exact h.severityRows r (mem_filter_rows.1 member).1
  · rw [Table.rows_filter]
    exact nodup_keys_filter h.severityNames _
  · rw [Table.rows_filter]
    exact nodup_keys_filter h.severityValues _

/-! ## Phases -/

theorem insertGeneration (h : Consistent s) {names : List String} {current : UInt32}
    {phases : Table PhaseRow} (some_names : names ≠ []) (visible : ∀ name ∈ names, Visible name)
    (highest : s.maxGeneration = .ok current)
    (inserted : insertPhases s.phases (numberPhases (current + 1) 0 names) = .ok phases) :
    Consistent { s with phases := phases } := by
  obtain ⟨log, logged⟩ := h.phaseLog
  rw [logged.maxGeneration] at highest
  cases highest
  obtain ⟨rows, next⟩ := logged.append some_names visible inserted
  refine { h with phaseLog := ⟨_, next⟩, incidentRows := ?_ }
  intro row member
  obtain ⟨i, same, name, phase⟩ := h.incidentRows row member
  refine ⟨i, same, name, ?_⟩
  rw [hasPhase, rows, List.any_append, Bool.or_eq_true]
  exact Or.inl phase

/-! ## Incidents -/

/-- The row that an incident is found by is the row of an incident with that identifier. -/
theorem exists_of_findIncident (h : Consistent s) {id : Uuid} {row : IncidentRow}
    (found : s.findIncident id = some row) :
    ∃ i : Incident, row = i.row ∧ i.id = id ∧ s.hasPhase i.phase = true := by
  obtain ⟨member, key⟩ := mem_of_findIncident found
  obtain ⟨i, same, -, phase⟩ := h.incidentRows row member
  rw [same] at key
  exact ⟨i, same, Uuid.text_injective (Option.some.inj key), phase⟩

theorem insertIncident (h : Consistent s) {i : Incident} (visible : Visible i.displayName)
    (fresh : s.hasIncident i.id = false) (phase : s.hasPhase i.phase = true) :
    Consistent { s with incidents := s.incidents.insert i.row } := by
  have keys := incidentKeys_insert s i.row
  have unused : some i.id.text ∉ s.incidentKeys := by
    rw [← hasIncident_iff, fresh]
    exact Bool.false_ne_true
  refine { h with
    incidentKeys := ?_, incidentRows := forall_insert h.incidentRows ⟨i, rfl, visible, phase⟩
    impactIncidents := ?_, updateIncidents := ?_ }
  · rw [keys]
    exact h.incidentKeys.append unused
  · rw [keys]
    exact fun m member => List.mem_append_left _ (h.impactIncidents m member)
  · rw [keys]
    exact fun u member => List.mem_append_left _ (h.updateIncidents u member)

theorem reviseIncident (h : Consistent s) {id : Uuid} {input : NewIncident} {old : IncidentRow}
    (visible : Visible input.displayName) (found : s.findIncident id = some old)
    (exists_phase : s.hasPhaseOf (old.revise input) = true) :
    Consistent { s with
      incidents := s.incidents.map fun i =>
        if i.id = some id.text then old.revise input else i } := by
  obtain ⟨i, rfl, rfl, -⟩ := h.exists_of_findIncident found
  rw [i.revise_row] at exists_phase ⊢
  have keys := incidentKeys_replace s i.id
    (input.withId i.id (input.phase.getD i.phase)).row rfl
  refine { h with
    incidentKeys := ?_
    incidentRows := forall_replace h.incidentRows fun _ _ _ => ⟨_, rfl, visible, exists_phase⟩
    impactIncidents := ?_, updateIncidents := ?_ }
  · rw [keys]
    exact h.incidentKeys
  · rw [keys]
    exact h.impactIncidents
  · rw [keys]
    exact h.updateIncidents

theorem replaceImpacts (h : Consistent s) {id : Uuid} {impacts : List Impact}
    (known : some id.text ∈ s.incidentKeys) (targets : (impacts.map Impact.target).Nodup)
    (admitted : s.Admits impacts) :
    Consistent { s with impacts := s.impactsFor id impacts } := by
  have rows : (s.impactsFor id impacts).rows =
      (s.impacts.rows.filter fun m => m.incident ≠ id.text) ++ impacts.map (impactRow id) := by
    simp [impactsFor]
  -- A row of the new table is an old one or that of a new impact, so each clause has two cases.
  have all {p : ImpactRow → Prop} (old : ∀ m ∈ s.impacts.rows, p m)
      (new : ∀ impact ∈ impacts, p (impactRow id impact)) :
      ∀ m ∈ (s.impactsFor id impacts).rows, p m := by
    intro m member
    rw [rows] at member
    rcases List.mem_append.1 member with member | member
    · exact old m (List.mem_of_mem_filter member)
    · obtain ⟨impact, impact_member, rfl⟩ := List.mem_map.1 member
      exact new impact impact_member
  refine { h with
    impactRows := all h.impactRows
      fun impact member => ⟨id, impact, rfl, (admitted impact member).2.2⟩
    impactIncidents := all h.impactIncidents fun impact member => known
    impactComponents := all h.impactComponents
      fun impact member => hasComponent_iff.1 (admitted impact member).1
    impactTypes := all h.impactTypes
      fun impact member => hasImpactType_iff.1 (admitted impact member).2.1
    impactTriples := ?_ }
  rw [rows, List.map_append, List.nodup_append]
  refine ⟨nodup_keys_filter h.impactTriples _, ?_, ?_⟩
  · rw [List.map_map]
    refine List.Pairwise.map _ ?_ (List.pairwise_map.1 targets)
    intro a b differ same
    simp only [Function.comp_apply, impactRow, Prod.mk.injEq, Uuid.text_inj, true_and] at same
    exact differ (Prod.ext same.1 same.2)
  · intro triple member other other_member same
    obtain ⟨m, m_member, rfl⟩ := List.mem_map.1 member
    obtain ⟨n, n_member, rfl⟩ := List.mem_map.1 other_member
    obtain ⟨impact, -, rfl⟩ := List.mem_map.1 n_member
    simp only [impactRow, Prod.mk.injEq] at same
    simpa [same.1] using (List.mem_filter.1 m_member).2

theorem deleteIncident (h : Consistent s) (id : Uuid) :
    Consistent { s with
      incidents := s.incidents.filter fun i => i.id ≠ some id.text
      impacts := s.impacts.filter fun m => m.incident ≠ id.text
      updates := s.updates.filter fun u => u.incident ≠ id.text } := by
  have keys : Store.incidentKeys { s with
      incidents := s.incidents.filter fun i => i.id ≠ some id.text
      impacts := s.impacts.filter fun m => m.incident ≠ id.text
      updates := s.updates.filter fun u => u.incident ≠ id.text } =
      s.incidentKeys.filter fun key => key ≠ some id.text := keys_filter_ne _ _ _
  have kept {incident : String} (known : some incident ∈ s.incidentKeys)
      (other : incident ≠ id.text) :
      some incident ∈ s.incidentKeys.filter fun key => key ≠ some id.text :=
    List.mem_filter.2 ⟨known, by simpa using other⟩
  have impact {m : ImpactRow}
      (member : m ∈ (s.impacts.filter fun m => m.incident ≠ id.text).rows) :
      m ∈ s.impacts.rows ∧ m.incident ≠ id.text := by
    simpa [mem_filter_rows] using member
  have update {u : UpdateRow}
      (member : u ∈ (s.updates.filter fun u => u.incident ≠ id.text).rows) :
      u ∈ s.updates.rows ∧ u.incident ≠ id.text := by
    simpa [mem_filter_rows] using member
  refine { h with
    incidentKeys := ?_, incidentRows := ?_
    impactRows := fun m member => h.impactRows m (impact member).1
    impactIncidents := ?_
    impactComponents := fun m member => h.impactComponents m (impact member).1
    impactTypes := fun m member => h.impactTypes m (impact member).1
    impactTriples := ?_
    updateRows := fun u member => h.updateRows u (update member).1
    updateIncidents := ?_, updateOrders := ?_ }
  · rw [keys]
    exact h.incidentKeys.filter _
  · intro i member
    exact h.incidentRows i (mem_filter_rows.1 member).1
  · rw [keys]
    exact fun m member => kept (h.impactIncidents m (impact member).1) (impact member).2
  · rw [Table.rows_filter]
    exact nodup_keys_filter h.impactTriples _
  · rw [keys]
    exact fun u member => kept (h.updateIncidents u (update member).1) (update member).2
  · rw [Table.rows_filter]
    exact nodup_keys_filter h.updateOrders _

/-! ## Updates -/

theorem insertUpdate (h : Consistent s) {e : IncidentUpdate} (visible : Visible e.displayName)
    (known : s.hasIncident e.incident = true)
    (fresh : (s.updates.rows.any fun u => u.isAt e.incident e.order) = false) :
    Consistent { s with updates := s.updates.insert e.row } := by
  simp only [List.any_eq_false, UpdateRow.isAt, Bool.and_eq_true, beq_iff_eq] at fresh
  refine { h with
    updateRows := forall_insert h.updateRows ⟨e, rfl, visible⟩
    updateIncidents := forall_insert h.updateIncidents (hasIncident_iff.1 known)
    updateOrders := nodup_keys_insert h.updateOrders ?_ }
  intro u member same
  exact fresh u member (Prod.mk.inj same)

theorem changeUpdate (h : Consistent s) {id : Uuid} {order : UInt32} {old : UpdateRow}
    {name description : String} (visible : Visible name)
    (found : (s.updates.rows.find? fun u => u.isAt id order) = some old) :
    Consistent { s with
      updates := s.updates.map fun u => if u.isAt id order then
        { old with displayName := name, description := description } else u } := by
  have member := List.mem_of_find?_eq_some found
  have key := List.find?_some found
  obtain ⟨e, rfl, -⟩ := h.updateRows old member
  let next : IncidentUpdate := { e with displayName := name, description := description }
  have rows {p : UpdateRow → Prop} (before : ∀ u ∈ s.updates.rows, p u) (after : p next.row) :
      ∀ u ∈ (s.updates.map fun u => if u.isAt id order then next.row else u).rows, p u :=
    forall_replace before fun _ _ _ => after
  refine { h with
    updateRows := rows h.updateRows ⟨next, rfl, visible⟩
    updateIncidents := rows h.updateIncidents (h.updateIncidents e.row member), updateOrders := ?_ }
  rw [keys_replace]
  · exact h.updateOrders
  · intro u hit
    simp only [UpdateRow.isAt, Bool.and_eq_true, beq_iff_eq] at key hit
    rw [key.1, key.2, hit.1, hit.2]

theorem deleteUpdate (h : Consistent s) (id : Uuid) (order : UInt32) :
    Consistent { s with updates := s.updates.filter fun u => !u.isAt id order } := by
  have old {u : UpdateRow} (member : u ∈ (s.updates.filter fun u => !u.isAt id order).rows) :
      u ∈ s.updates.rows := (mem_filter_rows.1 member).1
  refine { h with
    updateRows := fun u member => h.updateRows u (old member)
    updateIncidents := fun u member => h.updateIncidents u (old member)
    updateOrders := ?_ }
  rw [Table.rows_filter]
  exact nodup_keys_filter h.updateOrders _

/-! ## Operations and runs -/

/-- No operation, whatever comes of it, takes a clause away. -/
theorem effect (h : Consistent s) {m : Moment} {operation : Operation}
    {o : Outcome operation.Result} (done : Effect m s operation o) : Consistent o.store := by
  cases done with
  | read => exact h
  | failed => exact h
  | createComponent name keys fresh =>
    have inserted := h.insertComponent name fresh
    refine inserted.setLabels ?_ keys
    rw [componentKeys_insert]
    exact List.mem_append_right _ (List.mem_singleton_self _)
  | @updateComponent id input name keys known =>
    have renamed := h.renameComponent id name
    refine renamed.setLabels ?_ keys
    rw [componentKeys_rename]
    exact hasComponent_iff.1 known
  | deleteComponent unused => exact h.deleteComponent unused
  | createImpactType name fresh => exact h.insertImpactType name fresh
  | @updateImpactType id input name => exact h.changeImpactType id name
  | deleteImpactType unused => exact h.deleteImpactType unused
  | createSeverity name scale fresh => exact h.insertSeverity name scale fresh
  | updateSeverity name scale fresh => exact h.changeSeverity name scale fresh
  | @deleteSeverity name => exact h.deleteSeverity name
  | createGeneration some_names visible highest inserted =>
    exact h.insertGeneration some_names visible highest inserted
  | @createIncident input phase accepted admitted fresh exists_phase =>
    have inserted :=
      h.insertIncident (i := input.withId m.id phase) accepted.name fresh exists_phase
    refine inserted.replaceImpacts ?_ accepted.targets admitted
    rw [incidentKeys_insert]
    exact List.mem_append_right _ (List.mem_singleton_self _)
  | @updateIncident id input old columns accepted admitted found exists_phase =>
    have revised := h.reviseIncident accepted.name found exists_phase
    obtain ⟨i, rfl, rfl, -⟩ := h.exists_of_findIncident found
    refine revised.replaceImpacts ?_ accepted.targets admitted
    rw [incidentKeys_replace s i.id _ rfl]
    exact List.mem_map.2 ⟨i.row, (mem_of_findIncident found).1, rfl⟩
  | @deleteIncident id => exact h.deleteIncident id
  | createUpdate name known fresh => exact h.insertUpdate name known fresh
  | updateUpdate name found => exact h.changeUpdate name found
  | @deleteUpdate id order => exact h.deleteUpdate id order

end Consistent

/-- Every run from the empty store ends in a consistent one. -/
theorem consistent_run {s : Store} (h : Consistent s) (operations : List (Moment × Operation)) :
    Consistent (s.run operations) :=
  @run_induction (fun _ => True) Consistent (fun _ h done => h.effect done) s h operations
    fun _ _ => trivial

/-- Whatever operations are carried out on the empty store, at whatever instants and with whatever
identifiers drawn, the tables stay consistent, the generations without gaps and the names of all
phases visible. -/
theorem run_empty_consistent (operations : List (Moment × Operation)) :
    Consistent (empty.run operations) ∧ (empty.run operations).GenerationsDense ∧
      ∀ row ∈ (empty.run operations).phases.rows, Visible row.name := by
  have consistent := consistent_run .empty operations
  obtain ⟨log, logged⟩ := consistent.phaseLog
  exact ⟨consistent, logged.dense, logged.names_visible⟩

end StatusPage.Store
