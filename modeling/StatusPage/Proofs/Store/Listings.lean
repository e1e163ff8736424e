import Mathlib
import StatusPage.Proofs.Store.ImpactViews
import StatusPage.Proofs.Store.LastWrite
import StatusPage.Proofs.Store.UpdateOrders

/-!
# Listings and single reads

A listing and a read by key go different ways to the same rows. `Complete` says that they agree: a
listing has what is found under some key, each once, and in strictly ascending order. Both come from
what the rows are written from, so for each kind of entity three things are shown: a key that is in
use finds its entity, one that is not in use finds nothing (`complete_of_finds`), and the order of
the texts that rows are sorted by is that of the entities. `listings_complete` puts the five
together for every run.
-/

namespace StatusPage.Store

open Text

/-! ## Agreement -/

/-- A listing has the entities that are found by their keys, each once and in a strict order. -/
structure Complete {α κ : Type} (listed : List α) (key : α → κ)
    (get : κ → Except Fault (Option α)) (before : α → α → Prop) : Prop where
  mem_iff : ∀ a, a ∈ listed ↔ get (key a) = .ok (some a)
  /-- What is found under a key has that key. -/
  key_eq : ∀ k a, get k = .ok (some a) → key a = k
  /-- Under every key there is an entity or none, and no read fails. -/
  answers : ∀ k, ∃ a?, get k = .ok a?
  once : (listed.map key).Nodup
  ordered : listed.Pairwise before

section

variable {α β κ ω : Type} [LinearOrder ω] {as : List α} {read : α → β} {order : α → ω}
  {key : β → κ} {get : κ → Except Fault (Option β)} {before : β → β → Prop}

/-- A sorted listing is complete if keys in use find what was written under them, and others
nothing. -/
theorem complete_of_finds (hit : ∀ a ∈ as, get (key (read a)) = .ok (some (read a)))
    (miss : ∀ k, (∀ a ∈ as, key (read a) ≠ k) → get k = .ok none)
    (keys : (as.map fun a => key (read a)).Nodup) (orders : (as.map order).Nodup)
    (ascending : ∀ a ∈ as, ∀ b ∈ as, order a < order b → before (read a) (read b)) :
    Complete ((sortedBy order as).map read) key get before := by
  have found (k : κ) : (∃ a ∈ as, key (read a) = k ∧ get k = .ok (some (read a))) ∨
      get k = .ok none := by
    by_cases used : ∃ a ∈ as, key (read a) = k
    · obtain ⟨a, member, rfl⟩ := used
      exact Or.inl ⟨a, member, rfl, hit a member⟩
    · refine Or.inr (miss k ?_)
      intro a member same
      exact used ⟨a, member, same⟩
  have read_from {k : κ} {b : β} (there : get k = .ok (some b)) :
      ∃ a ∈ as, b = read a ∧ key b = k := by
    rcases found k with ⟨a, member, same, here⟩ | nothing
    · rw [here] at there
      cases there
      exact ⟨a, member, rfl, same⟩
    · rw [nothing] at there
      cases there
  refine ⟨?_, ?_, ?_, ?_, ?_⟩
  · intro b
    simp only [List.mem_map, mem_sortedBy]
    constructor
    · rintro ⟨a, member, rfl⟩
      exact hit a member
    · intro there
      obtain ⟨a, member, same, -⟩ := read_from there
      exact ⟨a, member, same.symm⟩
  · intro k b there
    obtain ⟨-, -, -, same⟩ := read_from there
    exact same
  · intro k
    rcases found k with ⟨a, -, -, here⟩ | nothing
    · exact ⟨_, here⟩
    · exact ⟨_, nothing⟩
  · rw [List.map_map]
    exact (((sortedBy_perm order as).map _).nodup_iff).2 keys
  · rw [List.pairwise_map]
    refine (pairwise_sortedBy order orders).imp_of_mem ?_
    intro a b a_member b_member less
    exact ascending a (mem_sortedBy.1 a_member) b (mem_sortedBy.1 b_member) less

end

/-- The order of names, and of identifiers under one name. -/
def NameBefore {α : Type} (name : α → String) (id : α → Uuid) (a b : α) : Prop :=
  name a < name b ∨ name a = name b ∧ (id a).bits < (id b).bits

/-- The order of instants of beginning, the latest first, and of identifiers at one instant. -/
def BeginningBefore (i j : Incident) : Prop :=
  j.beganAt < i.beganAt ∨ i.beganAt = j.beganAt ∧ i.id.bits < j.id.bits

/-- The texts that incidents are sorted by have the order of the instants that are read. -/
theorem beginningBefore_kept {i j : Incident} (year_i : i.beganAt.FourDigitYear)
    (year_j : j.beganAt.FourDigitYear) (less : beginningKey i < beginningKey j) :
    BeginningBefore i.kept j.kept := by
  rw [beginningKey, beginningKey, Prod.Lex.toLex_lt_toLex, Uuid.text_lt_text_iff] at less
  rcases less with later | ⟨same, ids⟩
  · exact Or.inl ((Instant.storedText_lt_iff year_j year_i).1 later)
  · exact Or.inr ⟨Instant.kept_eq_of_storedText_eq year_i year_j same, ids⟩

/-- Rows with different keys are listed by different keys. -/
theorem nodup_orders {α κ ω : Type} {as : List α} {order : α → ω} {key : α → κ}
    (keys : (as.map key).Nodup) (through : ω → κ) (same : ∀ a, through (order a) = key a) :
    (as.map order).Nodup := by
  have composed : (as.map order).map through = as.map key := by
    rw [List.map_map]
    exact List.map_congr_left fun a _ => same a
  rw [← composed] at keys
  exact keys.of_map

/-! ## Impact types and severities -/

variable {s : Store}

/-- The row of an impact type. -/
def impactTypeRow (t : ImpactType) : ImpactTypeRow := ⟨some t.id.text, t.displayName, t.description⟩

theorem impactTypeRow_le (t u : ImpactType) : (impactTypeRow t).le (impactTypeRow u) =
    decide (nameKey (t.id, t.displayName) ≤ nameKey (u.id, u.displayName)) :=
  thenLe_eq textLe_iff textLe_iff

/-- The table of impact types is written from impact types. -/
theorem Consistent.exists_impactTypes (h : s.Consistent) :
    ∃ ts : List ImpactType, s.impactTypes.rows = ts.map impactTypeRow := by
  have written : ∀ row ∈ s.impactTypes.rows, ∃ t : ImpactType, row = impactTypeRow t ∧ True := by
    intro row member
    obtain ⟨id, key⟩ := h.impactTypeKeys.ids row.id (List.mem_map_of_mem member)
    exact ⟨⟨id, row.displayName, row.description⟩, by rw [impactTypeRow, ← key], trivial⟩
  obtain ⟨ts, rows, -⟩ := exists_map_eq written
  exact ⟨ts, rows⟩

/-- A listing shows all impact types, by name and then by identifier. -/
theorem listImpactTypes_eq {ts : List ImpactType}
    (rows : s.impactTypes.rows = ts.map impactTypeRow) :
    s.listImpactTypes = .ok (sortedBy (fun t => nameKey (t.id, t.displayName)) ts) := by
  have columns (shown : List ImpactType) : (shown.map impactTypeRow).mapM
      (fun t => (textColumn 0 "impact_type_id" t.id).map fun id => (t, id)) =
      .ok (shown.map fun t => (impactTypeRow t, t.id.text)) := by
    rw [List.mapM_map]
    exact mapM_ok fun _ _ => rfl
  rw [listImpactTypes, rows, mergeSort_map impactTypeRow_le, columns, during_ok, ok_bind,
    List.mapM_map]
  refine mapM_ok_self fun t _ => ?_
  simp only [Function.comp_apply, readId_text]
  rfl

/-- The row of a severity. -/
def severityRow (v : Severity) : SeverityRow := ⟨some v.displayName, cell8 v.value⟩

theorem value_le_row (v w : Severity) :
    (severityRow v).value.le (severityRow w).value = decide (v.value.toNat ≤ w.value.toNat) := by
  simp only [severityRow, cell8, Cell.le, Int.ofNat_le]

/-- A listing shows all severities, by value. -/
theorem listSeverities_eq {vs : List Severity} (rows : s.severities.rows = vs.map severityRow) :
    s.listSeverities = .ok (sortedBy (fun v => v.value.toNat) vs) := by
  have sorted := mergeSort_map (f := severityRow) (r := fun a b => a.value.le b.value) value_le_row
  have columns (shown : List Severity) : (shown.map severityRow).mapM SeverityRow.columns =
      .ok (shown.map fun v => (v.displayName, (v.value.toNat : Int))) := by
    rw [List.mapM_map]
    exact mapM_ok fun _ _ => rfl
  rw [listSeverities, rows, sorted, columns, during_ok, ok_bind, List.mapM_map]
  refine mapM_ok_self fun v _ => ?_
  simp only [Function.comp_apply, severityOf, readSeverity_toNat]
  rfl

/-! ## The five listings -/

namespace Consistent

theorem listComponents_complete (h : s.Consistent) :
    ∃ listed, s.listComponents ⟨∅, false, none⟩ = .ok listed ∧
      Complete listed (·.id) s.getComponent (NameBefore (·.displayName) (·.id)) := by
  obtain ⟨pairs, rows⟩ := h.exists_components
  have keys := h.componentKeys.distinct
  rw [Store.componentKeys, rows, List.map_map] at keys
  have all : (pairs.filter fun p =>
      s.hasLabels (componentRow p) ∅ && (!false || s.isAffected (componentRow p) none)) =
      pairs := List.filter_eq_self.2 fun _ _ => rfl
  have listed := listComponents_eq rows ⟨∅, false, none⟩
  rw [all] at listed
  refine ⟨_, listed, complete_of_finds ?_ ?_ ?_ ?_ ?_⟩
  · intro p member
    refine h.getComponent_eq_some_iff.2 ⟨rfl, ?_, rfl⟩
    rw [rows]
    exact List.mem_map_of_mem member
  · intro k unused
    have nothing : (s.components.rows.find? fun c => c.id == some k.text) = none := by
      simpa [rows, componentRow, componentOf] using unused
    rw [getComponent, nothing]
    rfl
  · exact nodup_orders keys (fun id => some id.text) fun _ => rfl
  · exact nodup_orders keys (fun key => some (ofLex key).2) fun _ => rfl
  · intro p _ q _ less
    rwa [nameKey, nameKey, Prod.Lex.toLex_lt_toLex, Uuid.text_lt_text_iff] at less

theorem listImpactTypes_complete (h : s.Consistent) :
    ∃ listed, s.listImpactTypes = .ok listed ∧
      Complete listed (·.id) s.getImpactType (NameBefore (·.displayName) (·.id)) := by
  obtain ⟨ts, rows⟩ := h.exists_impactTypes
  have keys := h.impactTypeKeys.distinct
  have there (t : ImpactType) (member : t ∈ ts) :
      s.impactTypes.rows.find? (fun row => row.id == some t.id.text) = some (impactTypeRow t) := by
    refine find?_eq_of_nodup keys (a := impactTypeRow t) ?_
    rw [rows]
    exact List.mem_map_of_mem member
  rw [Store.impactTypeKeys, rows, List.map_map] at keys
  refine ⟨_, listImpactTypes_eq rows, ?_⟩
  rw [← List.map_id (sortedBy _ ts)]
  refine complete_of_finds ?_ ?_ ?_ ?_ ?_
  · intro t member
    simp only [id_eq, getImpactType, there t member]
    rfl
  · intro k unused
    have nothing : (s.impactTypes.rows.find? fun row => row.id == some k.text) = none := by
      simpa [rows, impactTypeRow] using unused
    rw [getImpactType, nothing]
    rfl
  · exact nodup_orders keys (fun id => some id.text) fun _ => rfl
  · exact nodup_orders keys (fun key => some (ofLex key).2) fun _ => rfl
  · intro t _ u _ less
    rwa [nameKey, nameKey, Prod.Lex.toLex_lt_toLex, Uuid.text_lt_text_iff] at less

theorem listSeverities_complete (h : s.Consistent) :
    ∃ listed, s.listSeverities = .ok listed ∧
      Complete listed (·.displayName) s.getSeverity (fun a b => a.value < b.value) := by
  obtain ⟨vs, rows⟩ : ∃ vs : List Severity, s.severities.rows = vs.map severityRow := by
    obtain ⟨vs, rows, -⟩ := exists_map_eq h.severityRows
    exact ⟨vs, rows⟩
  have names := h.severityNames
  have values := h.severityValues
  have there (v : Severity) (member : v ∈ vs) :
      s.severities.rows.find? (fun r => r.displayName == some v.displayName) =
        some (severityRow v) := by
    refine find?_eq_of_nodup names (a := severityRow v) ?_
    rw [rows]
    exact List.mem_map_of_mem member
  rw [rows, List.map_map] at names values
  refine ⟨_, listSeverities_eq rows, ?_⟩
  rw [← List.map_id (sortedBy _ vs)]
  refine complete_of_finds ?_ ?_ ?_ ?_ ?_
  · intro v member
    exact getSeverity_of_found (there v member)
  · intro name unused
    have nothing : (s.severities.rows.find? fun r => r.displayName == some name) = none := by
      simpa [rows, severityRow] using unused
    rw [getSeverity, nothing]
  · exact nodup_orders names some fun _ => rfl
  · exact nodup_orders values (fun n => .int n) fun _ => rfl
  · intro v _ w _ less
    exact UInt8.lt_iff_toNat_lt.2 less

theorem listIncidents_complete (h : s.Consistent)
    (times : s.IncidentTimes Instant.FourDigitYear) :
    ∃ listed, s.listIncidents ⟨false, none⟩ = .ok listed ∧
      Complete listed (·.id) s.getIncident BeginningBefore := by
  obtain ⟨is, rows, bounds⟩ := exists_map_eq times
  have keys := h.incidentKeys.distinct
  rw [Store.incidentKeys, rows, List.map_map] at keys
  have listed := listIncidents_eq rows bounds ⟨false, none⟩
  have all : (is.filter fun i => !false || i.row.activeAt none) = is :=
    List.filter_eq_self.2 fun _ _ => rfl
  rw [all] at listed
  refine ⟨_, listed, complete_of_finds ?_ ?_ ?_ ?_ ?_⟩
  · intro i member
    have row : i.row ∈ s.incidents.rows := by
      rw [rows]
      exact List.mem_map_of_mem member
    have found := h.findIncident_eq row
    exact getIncident_of_found (bounds i member) found
  · intro k unused
    have nothing : s.findIncident k = none := by
      simpa [findIncident, rows, Incident.row, Incident.kept] using unused
    rw [getIncident, nothing]
  · exact nodup_orders keys (fun id => some id.text) fun _ => rfl
  · exact nodup_orders keys (fun key => some (ofLex key).2) fun _ => rfl
  · intro i i_member j j_member
    exact beginningBefore_kept (bounds i i_member).1 (bounds j j_member).1

theorem listUpdates_complete (h : s.Consistent) (times : s.UpdateTimes Instant.FourDigitYear)
    {id : Uuid} (known : s.hasIncident id = true) :
    ∃ listed, s.listUpdates id = .ok listed ∧ (∀ u ∈ listed, u.incident = id) ∧
      Complete listed (·.order) (s.getUpdate id) (fun a b => a.order < b.order) := by
  obtain ⟨es, rows, created⟩ := exists_map_eq times
  have keys := h.nodup_ordersOf id
  rw [ordersOf_eq rows] at keys
  refine ⟨_, listUpdates_eq rows created known, ?_, complete_of_finds ?_ ?_ ?_ ?_ ?_⟩
  · intro u listed
    obtain ⟨e, member, rfl⟩ := List.mem_map.1 listed
    simpa using (List.mem_filter.1 (mem_sortedBy.1 member)).2
  · intro e member
    obtain ⟨e_member, incident⟩ := List.mem_filter.1 member
    rw [decide_eq_true_eq] at incident
    subst incident
    have there : (s.updates.rows.find? fun u => u.isAt e.incident e.order) = some e.row := by
      refine find?_eq_of_nodup h.updateOrders (a := e.row) ?_
      rw [rows]
      exact List.mem_map_of_mem e_member
    rw [getUpdate, there]
    dsimp only
    rw [e.update_row (created e e_member)]
    rfl
  · intro k unused
    have nothing : (s.updates.rows.find? fun u => u.isAt id k) = none := by
      simpa [rows, isAt_row] using unused
    rw [getUpdate, nothing]
  · exact keys
  · exact nodup_orders keys UInt32.ofNat fun _ => UInt32.ofNat_toNat
  · intro e _ f _ less
    exact UInt32.lt_iff_toNat_lt.2 less

end Consistent

/-- After operations with instants and a clock in years of four digits, each of the listings has
exactly the entities that are found by their keys, each once: components and impact types by name
and then by identifier, severities by value, incidents from the latest to the earliest and then by
identifier, and the updates of an incident by number. -/
theorem listings_complete {operations : List (Moment × Operation)}
    (given : ∀ step ∈ operations, step.2.TimesIn Instant.FourDigitYear)
    (clock : ∀ step ∈ operations, step.1.now.FourDigitYear) :
    let s := empty.run operations
    (∃ listed, s.listComponents ⟨∅, false, none⟩ = .ok listed ∧
        Complete listed (·.id) s.getComponent (NameBefore (·.displayName) (·.id))) ∧
      (∃ listed, s.listImpactTypes = .ok listed ∧
        Complete listed (·.id) s.getImpactType (NameBefore (·.displayName) (·.id))) ∧
      (∃ listed, s.listSeverities = .ok listed ∧
        Complete listed (·.displayName) s.getSeverity (fun a b => a.value < b.value)) ∧
      (∃ listed, s.listIncidents ⟨false, none⟩ = .ok listed ∧
        Complete listed (·.id) s.getIncident BeginningBefore) ∧
      ∀ id i, s.getIncident id = .ok (some i) → ∃ listed, s.listUpdates id = .ok listed ∧
        (∀ u ∈ listed, u.incident = id) ∧
        Complete listed (·.order) (s.getUpdate id) (fun a b => a.order < b.order) := by
  intro s
  have consistent : s.Consistent := consistent_run .empty operations
  have times : s.IncidentTimes Instant.FourDigitYear := incidentTimes_run .empty given
  refine ⟨consistent.listComponents_complete, consistent.listImpactTypes_complete,
    consistent.listSeverities_complete, consistent.listIncidents_complete times, ?_⟩
  intro id i read
  obtain ⟨j, found, -⟩ := times.exists_of_getIncident read
  refine consistent.listUpdates_complete (updateTimes_run .empty clock) ?_
  rw [← findIncident_isSome, found]
  rfl

/-- The outage, and two reports on it. -/
def reportedOutage : List (Moment × Operation) :=
  outage ++ [(momentOf 0, .createUpdate (Uuid.ofNat 3) ⟨"Seen", ""⟩),
    (momentOf 0, .createUpdate (Uuid.ofNat 3) ⟨"Solved", ""⟩)]

/-- Both impact types of the outage are listed, and both reports on it in the order in which they
were made. -/
theorem listings_complete_in_outage :
    let s := empty.run reportedOutage
    (∀ step ∈ reportedOutage, step.2.TimesIn Instant.FourDigitYear) ∧
      (∀ step ∈ reportedOutage, step.1.now.FourDigitYear) ∧
      (∃ listed, s.listImpactTypes = .ok listed ∧ ⟨Uuid.ofNat 2, "Down", ""⟩ ∈ listed ∧
        ⟨Uuid.ofNat 4, "Slow", ""⟩ ∈ listed) ∧
      ∃ log, s.listUpdates (Uuid.ofNat 3) = .ok log ∧ log.Pairwise (fun a b => a.order < b.order) ∧
        ⟨Uuid.ofNat 3, 0, "Seen", "", Instant.epoch⟩ ∈ log ∧
        ⟨Uuid.ofNat 3, 1, "Solved", "", Instant.epoch⟩ ∈ log := by
  intro s
  have given : ∀ step ∈ reportedOutage, step.2.TimesIn Instant.FourDigitYear := by decide
  have clock : ∀ step ∈ reportedOutage, step.1.now.FourDigitYear := by decide
  have read : s.getIncident (Uuid.ofNat 3) =
      .ok (some ⟨Uuid.ofNat 3, "Outage", "", Instant.epoch, none, ⟨1, 0⟩⟩) := by decide +kernel
  obtain ⟨-, ⟨listed, answer, types⟩, -, -, updates⟩ := listings_complete given clock
  obtain ⟨log, log_answer, -, reports⟩ := updates (Uuid.ofNat 3) _ read
  refine ⟨given, clock, ⟨listed, answer, ?_, ?_⟩, log, log_answer, reports.ordered, ?_, ?_⟩
  · exact (types.mem_iff _).2 (by decide +kernel)
  · exact (types.mem_iff _).2 (by decide +kernel)
  · exact (reports.mem_iff _).2 (by decide +kernel)
  · exact (reports.mem_iff _).2 (by decide +kernel)

end StatusPage.Store
