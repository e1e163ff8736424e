import Mathlib
import StatusPage.Proofs.Store.LabelFilter
import StatusPage.Proofs.Store.WriteOutcomes

/-!
# Writing back what was read

An update with the content that was read goes through, whatever the entity, and leaves the rows that
were there. Rows that are changed in place are the same rows again, since a key finds one row only.
Labels and impacts are deleted and inserted anew, so that they get other numbers and another place:
`SameRows` compares stores up to that. An incident is read with the impacts in force, so writing it
back keeps its impacts if its window is active and takes them away otherwise.
-/

namespace StatusPage

open Text Store

/-! ## The same rows -/

namespace Store

/-- Two stores have the same rows, in whatever order and under whatever numbers. -/
structure SameRows (s t : Store) : Prop where
  components : s.components.rows.Perm t.components.rows
  labels : s.labels.rows.Perm t.labels.rows
  impactTypes : s.impactTypes.rows.Perm t.impactTypes.rows
  severities : s.severities.rows.Perm t.severities.rows
  phases : s.phases.rows.Perm t.phases.rows
  incidents : s.incidents.rows.Perm t.incidents.rows
  impacts : s.impacts.rows.Perm t.impacts.rows
  updates : s.updates.rows.Perm t.updates.rows
  impactsBlocked : s.impactsBlocked = t.impactsBlocked

theorem SameRows.refl (s : Store) : s.SameRows s :=
  ⟨.refl _, .refl _, .refl _, .refl _, .refl _, .refl _, .refl _, .refl _, rfl⟩

theorem Table.map_eq_self {α : Type} {t : Table α} {change : α → α}
    (same : ∀ row ∈ t.rows, change row = row) : t.map change = t := by
  have entries : t.entries.map (fun e => (e.1, change e.2)) = t.entries := by
    conv_rhs => rw [← List.map_id t.entries]
    apply List.map_congr_left
    intro e member
    exact Prod.ext rfl (same e.2 (List.mem_map_of_mem member))
  exact congrArg Table.mk entries

/-- A change of the row with a key to the row that is there changes nothing. -/
theorem replace_eq_self {α κ : Type} {t : Table α} {key : α → κ} {row : α} {c : α → Prop}
    [DecidablePred c] {change : α → α} (distinct : (t.rows.map key).Nodup)
    (member : row ∈ t.rows) (keyed : ∀ r, c r → key r = key row) (same : change row = row) :
    (t.map fun r => if c r then change r else r) = t := by
  apply Table.map_eq_self
  intro r r_member
  split
  · next hit =>
    have equal := List.inj_on_of_nodup_map distinct r_member member (keyed r hit)
    rw [equal, same]
  · rfl

/-- The rows of a key stay what they are when they are deleted and inserted anew. -/
theorem replaced_perm {α κ : Type} [DecidableEq κ] {key : α → κ} {k : κ} {rows new : List α}
    (again : new.Perm (rows.filter fun row => key row == k)) :
    ((rows.filter fun row => key row ≠ k) ++ new).Perm rows := by
  refine (List.Perm.append_left _ again).trans ?_
  refine List.perm_append_comm.trans ?_
  have parts := List.filter_append_perm (fun row => key row == k) rows
  refine List.Perm.trans (List.Perm.of_eq ?_) parts
  congr 1
  apply List.filter_congr
  intro row _
  rw [Bool.eq_iff_iff]
  simp

namespace Consistent

variable {s : Store} (h : s.Consistent)

include h

/-! ## Components -/

/-- The label rows of a component are those of the labels that are read. -/
theorem labelRows_perm (id : Uuid) :
    (labelRows id (s.labelsOf id.text)).Perm
      (s.labels.rows.filter fun l => l.component == id.text) := by
  have entries := Labels.entries_ofList_perm (h.nodup_labelKeys id)
  refine (entries.map fun p => (⟨id.text, p.1, p.2⟩ : LabelRow)).trans (List.Perm.of_eq ?_)
  rw [List.map_map]
  conv_rhs => rw [← List.map_id (s.labels.rows.filter fun l => l.component == id.text)]
  apply List.map_congr_left
  intro l member
  have owner := (List.mem_filter.1 member).2
  rw [beq_iff_eq] at owner
  rw [Function.comp_apply, ← owner]
  rfl

/-- A component that was read is accepted as its own content. -/
theorem validate_component {id : Uuid} {c : Component}
    (read : s.getComponent id = .ok (some c)) :
    (⟨c.displayName, c.labels⟩ : NewComponent).validate = .ok () := by
  obtain ⟨rfl, member, labels⟩ := h.getComponent_eq_some_iff.1 read
  have name : Visible c.displayName :=
    h.componentNames ⟨some c.id.text, c.displayName⟩ member
  have keys : ∀ p ∈ c.labels.entries, Visible p.1 := by
    intro p entry
    rw [Labels.mem_entries_iff, labels, h.get?_labelsOf] at entry
    exact h.labelKeys ⟨c.id.text, p.1, p.2⟩ entry
  exact NewComponent.validate_ok_iff.2 ⟨name, keys⟩

theorem updateComponent_read {id : Uuid} {c : Component}
    (read : s.getComponent id = .ok (some c)) :
    s.updateComponent id ⟨c.displayName, c.labels⟩ = ⟨.ok c, s.setLabels id c.labels⟩ := by
  have known := h.hasComponent_of_getComponent read
  have passed := h.validate_component read
  obtain ⟨rfl, member, -⟩ := h.getComponent_eq_some_iff.1 read
  have kept : (s.components.map fun r =>
      if r.id = some c.id.text then { r with displayName := c.displayName } else r) =
      s.components :=
    replace_eq_self h.componentKeys.distinct member (fun _ hit => hit) rfl
  rw [updateComponent, passed]
  dsimp only
  rw [if_pos known, kept]
  rfl

theorem sameRows_setLabels {id : Uuid} {c : Component} (read : s.getComponent id = .ok (some c)) :
    (s.setLabels id c.labels).SameRows s := by
  obtain ⟨-, -, labels⟩ := h.getComponent_eq_some_iff.1 read
  have rows : (s.setLabels id c.labels).labels.rows =
      (s.labels.rows.filter fun l => l.component ≠ id.text) ++ labelRows id c.labels := by
    simp [Store.setLabels]
  refine { SameRows.refl s with labels := ?_ }
  rw [rows, labels]
  exact replaced_perm (h.labelRows_perm id)

/-! ## Impact types, severities and updates -/

theorem updateImpactType_read {id : Uuid} {t : ImpactType}
    (read : s.getImpactType id = .ok (some t)) :
    s.updateImpactType id ⟨t.displayName, t.description⟩ = ⟨.ok t, s⟩ := by
  simp only [getImpactType, Except.ok.injEq, Option.map_eq_some_iff] at read
  obtain ⟨row, found, rfl⟩ := read
  have member := List.mem_of_find?_eq_some found
  have key : row.id = some id.text := by simpa using List.find?_some found
  have passed : (⟨row.displayName, row.description⟩ : NewImpactType).validate = .ok () :=
    NewImpactType.validate_ok_iff.2 (h.impactTypeNames row member)
  have known : s.hasImpactType id = true := hasImpactType_iff.2 (List.mem_map.2 ⟨row, member, key⟩)
  have kept : (s.impactTypes.map fun r =>
      if r.id = some id.text then ⟨r.id, row.displayName, row.description⟩ else r) =
      s.impactTypes :=
    replace_eq_self h.impactTypeKeys.distinct member (fun _ hit => hit.trans key.symm) rfl
  rw [updateImpactType, passed]
  dsimp only
  rw [if_pos known, kept]
  rfl

/-- A severity that was read is the one whose row is there under its name. -/
theorem exists_severity_row {name : String} {v : Severity}
    (read : s.getSeverity name = .ok (some v)) :
    v.displayName = name ∧ Visible v.displayName ∧ v.value.toNat ≤ 100 ∧
      ⟨some v.displayName, cell8 v.value⟩ ∈ s.severities.rows := by
  cases found : s.severities.rows.find? fun r => r.displayName == some name with
  | none =>
    rw [getSeverity, found] at read
    cases read
  | some row =>
    have member := List.mem_of_find?_eq_some found
    have key := List.find?_some found
    obtain ⟨w, rfl, visible, scale⟩ := h.severityRows row member
    rw [getSeverity_of_found found] at read
    cases read
    exact ⟨by simpa using key, visible, scale, member⟩

theorem updateSeverity_read {name : String} {v : Severity}
    (read : s.getSeverity name = .ok (some v)) : s.updateSeverity name v = ⟨.ok v, s⟩ := by
  obtain ⟨rfl, visible, scale, member⟩ := h.exists_severity_row read
  have made : Severity.make v.displayName v.value.toNat = .ok v :=
    Severity.make_ok_iff.2 ⟨visible, scale, rfl⟩
  have known : (s.severities.rows.any fun r => r.displayName == some v.displayName) = true :=
    List.any_eq_true.2 ⟨_, member, by simp⟩
  have fresh : severityClash? (s.severities.rows.filter fun r =>
      r.displayName ≠ some v.displayName) v = none := by
    have value : ((s.severities.rows.filter fun r => r.displayName ≠ some v.displayName).any
        fun r => r.value == cell8 v.value) = false := by
      rw [List.any_eq_false]
      intro r others same
      obtain ⟨r_member, differ⟩ := List.mem_filter.1 others
      have equal := List.inj_on_of_nodup_map h.severityValues r_member member (by simpa using same)
      rw [equal] at differ
      simp at differ
    have name : ((s.severities.rows.filter fun r => r.displayName ≠ some v.displayName).any
        fun r => r.displayName == some v.displayName) = false := by
      simp [List.any_eq_false]
    rw [severityClash?, value, name]
    rfl
  have kept : (s.severities.map fun r =>
      if r.displayName = some v.displayName then
        (⟨some v.displayName, cell8 v.value⟩ : SeverityRow) else r) = s.severities :=
    replace_eq_self h.severityNames member (fun _ hit => hit) rfl
  rw [updateSeverity, made]
  dsimp only
  rw [if_pos known, fresh]
  dsimp only
  rw [kept]

theorem updateUpdate_read {id : Uuid} {order : UInt32} {u : IncidentUpdate}
    (read : s.getUpdate id order = .ok (some u)) :
    s.updateUpdate id order ⟨u.displayName, u.description⟩ = ⟨.ok u, s⟩ := by
  cases found : s.updates.rows.find? fun r => r.isAt id order with
  | none =>
    rw [getUpdate, found] at read
    cases read
  | some row =>
    have member := List.mem_of_find?_eq_some found
    have place := List.find?_some found
    rw [getUpdate, found] at read
    obtain ⟨v, shown, same⟩ := map_ok_iff.1 read
    cases same
    obtain ⟨e, rfl, visible⟩ := h.updateRows row member
    have texts : u.displayName = e.displayName ∧ u.description = e.description := by
      simp only [UpdateRow.update, bind_ok_iff] at shown
      obtain ⟨_, -, _, -, _, -, same⟩ := shown
      cases same
      exact ⟨rfl, rfl⟩
    have passed : (⟨e.displayName, e.description⟩ : NewIncidentUpdate).validate = .ok () :=
      NewIncidentUpdate.validate_ok_iff.2 visible
    have kept : (s.updates.map fun r => if r.isAt id order then e.row else r) = s.updates := by
      have distinct : (s.updates.rows.map fun r => (r.incident, r.order)).Nodup := h.updateOrders
      refine replace_eq_self distinct member ?_ rfl
      intro r hit
      simp only [UpdateRow.isAt, Bool.and_eq_true, beq_iff_eq] at hit place
      rw [hit.1, hit.2, place.1, place.2]
    rw [texts.1, texts.2, updateUpdate, passed, found]
    change Outcome.mk (e.row.update order.toNat)
      { s with updates := s.updates.map fun r => if r.isAt id order then e.row else r } = _
    rw [kept, shown]

end Consistent

/-! ## Incidents as they are read -/

/-- Every incident is kept in its row, with its bounds in order as texts. -/
def OrderedWindows (s : Store) : Prop :=
  ∀ row ∈ s.incidents.rows, ∃ i : Incident,
    row = i.row ∧ boundsInOrder i.row.beganAt i.row.endedAt = true

namespace OrderedWindows

variable {s : Store}

theorem effect (h : s.OrderedWindows) {m : Moment} {operation : Operation}
    {o : Outcome operation.Result} (done : Effect m s operation o) : o.store.OrderedWindows := by
  cases done with
  | @createIncident input phase _ _ _ _ _ order =>
    exact forall_insert h ⟨input.withId m.id phase, rfl, order⟩
  | @updateIncident id input old columns _ _ found _ _ order =>
    obtain ⟨i, rfl, -⟩ := h old (List.mem_of_find?_eq_some found)
    exact forall_replace h fun _ _ _ => ⟨_, i.revise_row input, order⟩
  | deleteIncident =>
    intro row member
    rw [mem_filter_rows] at member
    exact h row member.1
  | _ => exact h

theorem run_empty (operations : List (Moment × Operation)) :
    (empty.run operations).OrderedWindows := by
  have start : Store.empty.OrderedWindows := by
    intro row member
    cases member
  exact @run_induction (fun _ => True) OrderedWindows (fun _ h done => h.effect done) _ start
    operations fun _ _ => trivial

/-- An incident that was read was kept with instants in years of four digits and with its window in
order, and is what is kept of that one. -/
theorem exists_of_getIncident (h : s.OrderedWindows) {id : Uuid} {i : Incident}
    (read : s.getIncident id = .ok (some i)) :
    ∃ old : Incident, s.findIncident id = some old.row ∧ old.id = id ∧
      old.TimesIn Instant.FourDigitYear ∧
      (∀ ended ∈ old.endedAt, old.beganAt.kept ≤ ended.kept) ∧ i = old.kept := by
  cases found : s.findIncident id with
  | none =>
    rw [getIncident, found] at read
    cases read
  | some row =>
    obtain ⟨member, key⟩ := mem_of_findIncident found
    obtain ⟨old, rfl, order⟩ := h row member
    have same : old.id = id := Uuid.text_injective (Option.some.inj key)
    by_cases bounds : old.TimesIn Instant.FourDigitYear
    · rw [getIncident_of_found bounds found] at read
      cases read
      have given : (old.content []).TimesIn Instant.FourDigitYear := bounds
      have window := NewIncident.not_crossed.1 ((boundsInOrder_iff given).1 order)
      exact ⟨old, rfl, same, bounds, window, rfl⟩
    · rw [getIncident, found] at read
      simp only [old.columns_row, during_ok, ok_bind,
        Incident.incident_columns_of_not_timesIn bounds] at read
      cases read

end OrderedWindows

end Store

namespace Incident

theorem kept_kept (i : Incident) : i.kept.kept = i.kept := by
  simp [kept, Instant.kept_kept, Option.map_map, Function.comp_def]

/-- What is kept of an incident is kept in the row that it was read from. -/
theorem row_kept (i : Incident) : i.kept.row = i.row := by
  simp [row, kept, Instant.storedText_kept, Option.map_map, Function.comp_def]

/-- A property that what is kept of the instants has is one of the instants of what is kept. -/
theorem timesIn_kept {p : Instant → Prop} {i : Incident}
    (bounds : i.TimesIn fun t => p t.kept) : i.kept.TimesIn p := by
  refine ⟨bounds.1, ?_⟩
  intro ended member
  obtain ⟨given, given_member, rfl⟩ := Option.map_eq_some_iff.1 member
  exact bounds.2 given given_member

end Incident

namespace Store

variable {s : Store}

/-! ## Rows of impacts again -/

/-- Impacts that are deleted and inserted in another order are the same rows. -/
theorem sameRows_impactsFor {id : Uuid} {impacts all : List Impact}
    (rows : s.impactsOf id = all.map (impactRow id)) (again : impacts.Perm all) :
    Store.SameRows { s with impacts := s.impactsFor id impacts } s := by
  refine { SameRows.refl s with impacts := ?_ }
  change ((s.impacts.filter fun m => m.incident ≠ id.text).insertAll
    (impacts.map (impactRow id))).rows.Perm s.impacts.rows
  rw [Table.rows_insertAll, Table.rows_filter]
  refine replaced_perm ((again.map (impactRow id)).trans (List.Perm.of_eq ?_))
  exact rows.symm

/-- Taking away the impacts of an incident changes nothing exactly if it has none. -/
theorem sameRows_dropImpacts_iff {id : Uuid} :
    Store.SameRows { s with impacts := s.impacts.filter fun m => m.incident ≠ id.text } s ↔
      s.impactsOf id = [] := by
  constructor
  · intro same
    have left := same.impacts.filter fun m => m.incident == id.text
    rw [Table.rows_filter, List.filter_filter] at left
    have none_left : (s.impacts.rows.filter fun m =>
        m.incident == id.text && decide (m.incident ≠ id.text)) = [] := by
      simp
    rw [none_left] at left
    exact left.symm.eq_nil
  · intro none_there
    refine { SameRows.refl s with impacts := List.Perm.of_eq ?_ }
    rw [Table.rows_filter, List.filter_eq_self]
    intro m member
    have other := List.filter_eq_nil_iff.1 none_there m member
    simpa using other

namespace Consistent

variable (h : s.Consistent)

include h

/-- Impacts whose rows are there are on the scale and refer to what is there. -/
theorem admits_of_rows {id : Uuid} {impacts : List Impact}
    (own : ∀ impact ∈ impacts, impactRow id impact ∈ s.impacts.rows) : s.Admits impacts := by
  intro impact member
  have row := own impact member
  obtain ⟨other, written, same, scale⟩ := h.impactRows (impactRow id impact) row
  obtain ⟨-, rfl⟩ := impactRow_inj.1 same
  have component := h.impactComponents (impactRow id impact) row
  have impactType := h.impactTypes (impactRow id impact) row
  exact ⟨hasComponent_iff.2 component, hasImpactType_iff.2 impactType, scale⟩

/-- What a row of incidents says is visible and under a phase that exists. -/
theorem visible_of_row {i : Incident} (member : i.row ∈ s.incidents.rows) :
    Visible i.displayName ∧ s.hasPhase i.phase = true := by
  obtain ⟨j, same, name, phase⟩ := h.incidentRows i.row member
  simp only [Incident.row, IncidentRow.mk.injEq, cell32_inj] at same
  obtain ⟨-, same_name, -, -, -, same_generation, same_order⟩ := same
  have same_phase : i.phase = j.phase := by
    cases given : i.phase
    cases other : j.phase
    simp_all
  rw [same_name, same_phase]
  exact ⟨name, phase⟩

/-- The impacts of an incident are on different targets. -/
theorem nodup_targets {id : Uuid} {impacts : List Impact}
    (rows : s.impactsOf id = impacts.map (impactRow id)) : (impacts.map Impact.target).Nodup := by
  have distinct := h.impactTriples.sublist
    ((List.filter_sublist (p := fun m => m.incident == id.text)).map
      fun m : ImpactRow => (m.incident, m.component, m.impactType))
  change ((s.impactsOf id).map _).Nodup at distinct
  rw [rows, List.map_map] at distinct
  refine List.Nodup.of_map (fun target : Uuid × Uuid =>
    (id.text, target.1.text, target.2.text)) ?_
  rw [List.map_map]
  exact distinct

/-- The rows of impacts of an incident are written from impacts. -/
theorem exists_impactsOf (id : Uuid) :
    ∃ impacts : List Impact, s.impactsOf id = impacts.map (impactRow id) := by
  have written : ∀ m ∈ s.impactsOf id, ∃ impact, m = impactRow id impact ∧ True := by
    intro m member
    obtain ⟨row, owner⟩ := List.mem_filter.1 member
    obtain ⟨other, impact, rfl, -⟩ := h.impactRows m row
    have same : other = id := Uuid.text_injective (by simpa [impactRow] using owner)
    exact ⟨impact, by rw [same], trivial⟩
  obtain ⟨impacts, rows, -⟩ := exists_map_eq written
  exact ⟨impacts, rows⟩

theorem updateIncident_read (ordered : s.OrderedWindows) {id : Uuid} {i : Incident}
    (read : s.getIncident id = .ok (some i)) {impacts : List Impact}
    (own : ∀ impact ∈ impacts, impactRow id impact ∈ s.impacts.rows)
    (targets : (impacts.map Impact.target).Nodup) :
    s.updateIncident id (i.content impacts) =
      ⟨.ok i, { s with impacts := s.impactsFor id impacts }⟩ := by
  obtain ⟨old, found, rfl, bounds, window, rfl⟩ := ordered.exists_of_getIncident read
  have admitted := h.admits_of_rows own
  have member := (mem_of_findIncident found).1
  obtain ⟨name, phase⟩ := h.visible_of_row member
  have in_order : ∀ ended ∈ (old.kept.content impacts).endedAt, old.kept.beganAt ≤ ended := by
    intro ended ended_member
    obtain ⟨given, given_member, rfl⟩ := Option.map_eq_some_iff.1 ended_member
    exact window given given_member
  have accepted : (old.kept.content impacts).Accepted := ⟨name, in_order, targets⟩
  have given : (old.kept.content impacts).TimesIn Instant.FourDigitYear :=
    Incident.timesIn_kept (bounds.imp fun _ => Instant.fourDigitYear_kept.2)
  have regular : (old.kept.content impacts).TimesIn Instant.Regular :=
    Incident.timesIn_kept (bounds.imp fun t _ => t.regular_kept)
  have scale : ∀ impact ∈ (old.kept.content impacts).impacts, impact.severity.toNat ≤ 100 :=
    fun impact impact_member => (admitted impact impact_member).2.2
  have resolved : s.firstMissing? (old.kept.content impacts).references = none := by
    rw [firstMissing?, List.find?_eq_none]
    intro reference listed
    rcases List.mem_append.1 listed with given_phase | of_impact
    · obtain rfl := List.mem_singleton.1 given_phase
      simp [resolves, Incident.kept, phase]
    · obtain ⟨impact, impact_member, named⟩ := List.mem_flatMap.1 of_impact
      obtain ⟨component, impactType, -⟩ := admitted impact impact_member
      simp only [Impact.references, List.mem_cons, List.not_mem_nil, or_false] at named
      rcases named with rfl | rfl
      · simp [resolves, component]
      · simp [resolves, impactType]
  have untouched : (s.incidents.map fun row =>
      if row.id = some old.id.text then old.kept.row else row) = s.incidents :=
    replace_eq_self h.incidentKeys.distinct member (fun _ hit => hit) old.row_kept
  have same : (old.kept.content impacts).withId old.id
      ((old.kept.content impacts).phase.getD old.phase) = old.kept := rfl
  have same_id : old.kept.id = old.id := rfl
  rw [h.updateIncident_eq given accepted scale found, revision, resolved]
  dsimp only
  rw [if_neg (not_crossed_of_accepted accepted regular), same, old.kept_kept, withRevised, same_id,
    untouched]
  rfl

/-! ## The impacts with which an incident is read -/

/-- An incident is read with all its impacts or none, and writing it back with them goes through. -/
theorem exists_affected (ordered : s.OrderedWindows) {id : Uuid} {i : Incident}
    (read : s.getIncident id = .ok (some i)) (t : Option Instant) :
    ∃ impacts, s.affectedComponents id t = .ok impacts ∧ s.Admits impacts ∧
      s.updateIncident id (i.content impacts) =
        ⟨.ok i, { s with impacts := s.impactsFor id impacts }⟩ ∧
      ((∀ u ∈ t, u.FourDigitYear) →
        if i.window.isActive (t.map Instant.settle) then
          Store.SameRows { s with impacts := s.impactsFor id impacts } s
        else impacts = []) := by
  obtain ⟨old, found, rfl, bounds, -, rfl⟩ := ordered.exists_of_getIncident read
  obtain ⟨all, rows⟩ := h.exists_impactsOf old.id
  have shown := h.affectedComponents_eq found rows t
  have sorted : (all.mergeSort Impact.le).Perm all := List.mergeSort_perm all Impact.le
  have own : ∀ impact ∈ if old.row.activeAt t then all.mergeSort Impact.le else [],
      impactRow old.id impact ∈ s.impacts.rows := by
    split
    · intro impact member
      have there : impactRow old.id impact ∈ s.impactsOf old.id := by
        rw [rows]
        exact List.mem_map_of_mem (sorted.mem_iff.1 member)
      exact List.mem_of_mem_filter there
    · exact nofun
  have targets : ((if old.row.activeAt t then all.mergeSort Impact.le else []).map
      Impact.target).Nodup := by
    split
    · exact (sorted.map Impact.target).nodup_iff.2 (h.nodup_targets rows)
    · exact List.nodup_nil
  refine ⟨_, shown, h.admits_of_rows own, h.updateIncident_read ordered read own targets, ?_⟩
  intro asked
  rw [← Incident.activeAt_row bounds asked]
  split
  · exact sameRows_impactsFor rows sorted
  · rfl

end Consistent

end Store

end StatusPage
