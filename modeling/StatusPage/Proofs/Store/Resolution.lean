import Mathlib
import StatusPage.Proofs.Instant.SignedYears
import StatusPage.Proofs.Store.LastWrite

/-!
# Impacts in force

The store decides by texts which incidents are active, and callers decide by `Window.isActive` on
the incident that they read. `Incident.activeAt_row` says that both decide alike while all years
have four digits, save that the store takes an instant asked about for what its text shows. With
`lastWrite`, the content that the last successful write gave an incident,
`impacts_follow_lastWrite` says that the rows of impacts are always those of that content, and
`resolution_agrees` puts the two together: the impacts that the store answers with are those of the
last write, in order, exactly while the window that callers see is active.
-/

namespace StatusPage

open Text Store

/-! ## Windows -/

/-- The texts of a stored window are compared as the window that is kept in them at the instant that
is shown, if the year asked about is written in order with those of the bounds. -/
theorem Incident.activeAt_row_of_writtenInOrder {i : Incident} {t : Option Instant}
    (began : ∀ u ∈ t, Instant.WrittenInOrder i.beganAt.year u.year)
    (ended : ∀ u ∈ t, ∀ e ∈ i.endedAt, Instant.WrittenInOrder e.year u.year) :
    i.row.activeAt t = i.kept.window.isActive (t.map Instant.settle) := by
  cases t with
  | none => cases ended : i.endedAt <;> simp [IncidentRow.activeAt, Incident.row, Window.isActive,
      Window.isOngoing, Incident.window, Incident.kept, ended]
  | some u =>
    have begun : i.beganAt.storedText ≤ u.storedText ↔ i.beganAt.kept ≤ u.settle := by
      rw [(Instant.storedText_le_iff_writtenInOrder _ _).2 (began u rfl),
        Instant.kept_le_kept_iff]
    cases end_given : i.endedAt with
    | none =>
      simp only [IncidentRow.activeAt, Incident.row, Window.isActive, Window.contains,
        Incident.window, Incident.kept, end_given, Option.map_none, Option.map_some,
        Option.all_none, begun]
    | some e =>
      have past : e.storedText ≤ u.storedText ↔ e.kept ≤ u.settle := by
        rw [(Instant.storedText_le_iff_writtenInOrder _ _).2 (ended u rfl e end_given),
          Instant.kept_le_kept_iff]
      have going : u.storedText < e.storedText ↔ u.settle < e.kept := by
        rw [← String.not_le, past]
        exact not_not
      simp only [IncidentRow.activeAt, Incident.row, Window.isActive, Window.contains,
        Incident.window, Incident.kept, end_given, Option.map_some, Option.all_some, begun,
        going]

/-- The texts of a stored window are compared as the window that is read from them, at the instant
that is shown. -/
theorem Incident.activeAt_row {i : Incident} (bounds : i.TimesIn Instant.FourDigitYear)
    {t : Option Instant} (asked : ∀ u ∈ t, u.FourDigitYear) :
    i.row.activeAt t = i.kept.window.isActive (t.map Instant.settle) := by
  apply Incident.activeAt_row_of_writtenInOrder
  · exact fun u given => bounds.1.writtenInOrder (asked u given)
  · exact fun u given e end_given => (bounds.2 e end_given).writtenInOrder (asked u given)

/-! ## The order of impacts -/

/-- An impact comes before another one: by component, then by type. -/
def Impact.Before (a b : Impact) : Prop :=
  a.component.bits < b.component.bits ∨
    (a.component = b.component ∧ a.impactType.bits < b.impactType.bits)

/-- The order of impacts as listings use it. -/
def Impact.le (a b : Impact) : Bool :=
  if a.component = b.component then decide (a.impactType.bits ≤ b.impactType.bits)
  else decide (a.component.bits ≤ b.component.bits)

theorem Uuid.textLe_text (x y : Uuid) : textLe x.text y.text = decide (x.bits ≤ y.bits) := by
  have order : x.text ≤ y.text ↔ x.bits ≤ y.bits := by
    rw [← BitVec.not_lt, ← Uuid.text_lt_text_iff]
    rfl
  simp only [textLe, order]

theorem Impact.le_eq (id : Uuid) (a b : Impact) :
    a.le b = otherLe (·.component) (impactRow id a) (impactRow id b) := by
  simp only [Impact.le, otherLe, thenLe, impactRow, Uuid.text_inj, Uuid.textLe_text]

theorem Uuid.eq_iff {x y : Uuid} : x = y ↔ x.bits.toNat = y.bits.toNat := by
  cases x
  cases y
  rw [Uuid.mk.injEq, BitVec.toNat_inj]

/-- The order compares two numbers, one after the other. -/
theorem Impact.le_iff {a b : Impact} :
    a.le b = true ↔ a.component.bits.toNat < b.component.bits.toNat ∨
      (a.component.bits.toNat = b.component.bits.toNat ∧
        a.impactType.bits.toNat ≤ b.impactType.bits.toNat) := by
  by_cases same : a.component = b.component
  · have equal := Uuid.eq_iff.1 same
    simp only [Impact.le, if_pos same, decide_eq_true_eq, BitVec.le_def]
    omega
  · have differ : ¬ a.component.bits.toNat = b.component.bits.toNat :=
      fun h => same (Uuid.eq_iff.2 h)
    simp only [Impact.le, if_neg same, decide_eq_true_eq, BitVec.le_def]
    omega

theorem Impact.le_trans (a b c : Impact) (ab : a.le b = true) (bc : b.le c = true) :
    a.le c = true := by
  rw [Impact.le_iff] at *
  omega

theorem Impact.le_total (a b : Impact) : (a.le b || b.le a) = true := by
  rw [Bool.or_eq_true, Impact.le_iff, Impact.le_iff]
  omega

theorem Impact.before_of_le {a b : Impact} (order : a.le b = true) (differ : a.target ≠ b.target) :
    a.Before b := by
  rw [Impact.le_iff] at order
  simp only [Impact.target, ne_eq, Prod.mk.injEq, Uuid.eq_iff] at differ
  simp only [Impact.Before, Uuid.eq_iff, BitVec.lt_def]
  omega

/-- Impacts without a repeated target are listed in strictly increasing order. -/
theorem Impact.pairwise_mergeSort {impacts : List Impact}
    (targets : (impacts.map Impact.target).Nodup) :
    (impacts.mergeSort Impact.le).Pairwise Impact.Before := by
  have sorted := List.pairwise_mergeSort Impact.le_trans Impact.le_total impacts
  have distinct : (impacts.mergeSort Impact.le).Pairwise fun a b => a.target ≠ b.target :=
    List.pairwise_map.1 (((List.mergeSort_perm impacts Impact.le).map Impact.target).nodup_iff.2
      targets)
  exact (sorted.and distinct).imp fun both => Impact.before_of_le both.1 both.2

namespace Store

variable {s : Store}

/-! ## Impacts of one incident -/

/-- Among all incidents only the one with the identifier decides. -/
theorem Consistent.any_activeAt (h : s.Consistent) {id : Uuid} {row : IncidentRow}
    (found : s.findIncident id = some row) (t : Option Instant) :
    (s.incidents.rows.any fun i => i.id == some id.text && i.activeAt t) = row.activeAt t := by
  obtain ⟨member, key⟩ := mem_of_findIncident found
  rw [Bool.eq_iff_iff, List.any_eq_true]
  constructor
  · rintro ⟨i, i_member, decided⟩
    rw [Bool.and_eq_true, beq_iff_eq] at decided
    have same := List.inj_on_of_nodup_map h.incidentKeys.distinct i_member member
      (decided.1.trans key.symm)
    rw [← same]
    exact decided.2
  · intro active
    exact ⟨row, member, by rw [Bool.and_eq_true, beq_iff_eq]; exact ⟨key, active⟩⟩

theorem Consistent.filter_activeImpacts (h : s.Consistent) {id : Uuid} {row : IncidentRow}
    (found : s.findIncident id = some row) (t : Option Instant) :
    ((s.activeImpacts t).filter fun m => m.incident == id.text) =
      if row.activeAt t then s.impactsOf id else [] := by
  have decided : ∀ m : ImpactRow, m.incident = id.text →
      (s.incidents.rows.any fun i => i.id == some m.incident && i.activeAt t) = row.activeAt t := by
    rintro m same
    rw [same]
    exact h.any_activeAt found t
  rw [activeImpacts, List.filter_filter]
  split
  · next active =>
    apply List.filter_congr
    intro m _
    by_cases same : m.incident = id.text
    · rw [decided m same, active, Bool.and_true]
    · rw [beq_false_of_ne same, Bool.false_and]
  · next idle =>
    apply List.filter_eq_nil_iff.2
    intro m _ both
    rw [Bool.and_eq_true, beq_iff_eq] at both
    rw [decided m both.1] at both
    exact idle both.2

/-- The columns that stand for an impact in a listing by component. -/
def impactColumnsOf (impact : Impact) : ImpactColumns :=
  ⟨impact.component.text, impact.impactType.text, impact.severity.toNat⟩

theorem impactColumns_map (id : Uuid) (impacts : List Impact) :
    impactColumns (·.component) (impacts.map (impactRow id)) =
      .ok ((impacts.mergeSort Impact.le).map impactColumnsOf) := by
  have sorted : (impacts.map (impactRow id)).mergeSort (otherLe (·.component)) =
      (impacts.mergeSort Impact.le).map (impactRow id) :=
    (List.map_mergeSort fun a _ b _ => a.le_eq id b).symm
  rw [impactColumns, sorted, List.mapM_map]
  exact mapM_ok fun _ _ => rfl

theorem values_impactColumnsOf (impact : Impact) :
    (impactColumnsOf impact).values =
      .ok (impact.component, impact.impactType, impact.severity) := by
  simp only [ImpactColumns.values, impactColumnsOf, readId_text, readSeverity_toNat, ok_bind]
  rfl

theorem Consistent.affectedComponents_eq (h : s.Consistent) {id : Uuid} {row : IncidentRow}
    (found : s.findIncident id = some row) {impacts : List Impact}
    (rows : s.impactsOf id = impacts.map (impactRow id)) (t : Option Instant) :
    s.affectedComponents id t =
      .ok (if row.activeAt t then impacts.mergeSort Impact.le else []) := by
  have known : s.hasIncident id = true :=
    hasIncident_iff.2 (List.mem_map.2 ⟨row, mem_of_findIncident found⟩)
  have chosen : ((s.activeImpacts t).filter fun m => m.incident == id.text) =
      (if row.activeAt t then impacts else []).map (impactRow id) := by
    rw [h.filter_activeImpacts found, rows]
    split <;> rfl
  rw [affectedComponents, if_pos known, chosen, impactColumns_map, during_ok, ok_bind,
    List.mapM_map, mapM_ok (g := fun impact => impact), List.map_id']
  · split <;> simp
  · intro impact _
    rw [Function.comp_apply, values_impactColumnsOf]
    rfl

/-! ## Agreement -/

/-- Incidents that are kept in one row are read as one. -/
theorem kept_eq_of_row_eq {i j : Incident} (bounds_i : i.TimesIn Instant.FourDigitYear)
    (bounds_j : j.TimesIn Instant.FourDigitYear) (same : i.row = j.row) :
    i.kept = j.kept := by
  have columns : i.columns = j.columns := by
    have read := i.columns_row
    rw [same, j.columns_row] at read
    exact (Except.ok.inj read).symm
  have read := i.incident_columns bounds_i
  rw [columns, j.incident_columns bounds_j] at read
  exact (Except.ok.inj read).symm

/-- A listing of active incidents has each incident whose window is active, once. -/
theorem Consistent.exists_listIncidents_active (h : s.Consistent)
    (times : s.IncidentTimes Instant.FourDigitYear) {t : Option Instant}
    (asked : ∀ u ∈ t, u.FourDigitYear) :
    ∃ listed, s.listIncidents ⟨true, t⟩ = .ok listed ∧ (listed.map (·.id)).Nodup ∧
      ∀ i, i ∈ listed ↔ s.getIncident i.id = .ok (some i) ∧
        i.window.isActive (t.map Instant.settle) = true := by
  obtain ⟨is, bounds, perm, listed⟩ := exists_listIncidents times ⟨true, t⟩
  simp only [Bool.not_true, Bool.false_or] at perm
  refine ⟨is.map Incident.kept, listed, ?_, ?_⟩
  · have keys : ((is.map Incident.row).map (·.id)).Nodup :=
      (perm.map _).nodup_iff.2 (nodup_keys_filter h.incidentKeys.distinct _)
    rw [List.map_map] at keys ⊢
    exact List.Nodup.of_map (fun id : Uuid => some id.text) (by rwa [List.map_map])
  · intro j
    constructor
    · intro member
      obtain ⟨i, i_member, rfl⟩ := List.mem_map.1 member
      obtain ⟨row_member, active⟩ :=
        List.mem_filter.1 (perm.mem_iff.1 (List.mem_map_of_mem i_member))
      refine ⟨getIncident_of_found (bounds i i_member) (h.findIncident_eq row_member), ?_⟩
      rw [← Incident.activeAt_row (bounds i i_member) asked]
      exact active
    · rintro ⟨read, active⟩
      obtain ⟨i, found, -, i_bounds, rfl⟩ := times.exists_of_getIncident read
      rw [← Incident.activeAt_row i_bounds asked] at active
      have row_member := perm.mem_iff.2
        (List.mem_filter.2 ⟨(mem_of_findIncident found).1, active⟩)
      obtain ⟨k, k_member, same⟩ := List.mem_map.1 row_member
      rw [← kept_eq_of_row_eq (bounds k k_member) i_bounds same]
      exact List.mem_map_of_mem k_member

/-- After operations with instants in years of four digits, and at any such instant or none: every
incident is read back, and its impacts in force are those of its last successful write, by component
and then by type, while its window is active and none otherwise; and the listing of active incidents
has the incidents whose window is active. The instant asked about is the one that is given, unless
it is in a leap second inside a minute: then it is the one in the second that follows. -/
theorem resolution_agrees {operations : List (Moment × Operation)}
    (given : ∀ step ∈ operations, step.2.TimesIn Instant.FourDigitYear) {t : Option Instant}
    (asked : ∀ u ∈ t, u.FourDigitYear) :
    (∀ id, (empty.run operations).hasIncident id = true →
      ∃ i input sorted, (empty.run operations).getIncident id = .ok (some i) ∧ i.id = id ∧
        lastWrite id empty operations = some input ∧ sorted.Perm input.impacts ∧
        sorted.Pairwise Impact.Before ∧
        (empty.run operations).affectedComponents i.id t =
          .ok (if i.window.isActive (t.map Instant.settle) then sorted else [])) ∧
      ∃ listed, (empty.run operations).listIncidents ⟨true, t⟩ = .ok listed ∧
        (listed.map (·.id)).Nodup ∧
        (∀ i, i ∈ listed ↔ (empty.run operations).getIncident i.id = .ok (some i) ∧
          i.window.isActive (t.map Instant.settle) = true) ∧
        ((∀ u ∈ t, u.Regular) → t.map Instant.settle = t) := by
  have consistent := consistent_run .empty operations
  have times := incidentTimes_run .empty given
  obtain ⟨listed, answer, once, iff_active⟩ := consistent.exists_listIncidents_active times asked
  refine ⟨?_, listed, answer, once, iff_active, Instant.map_settle_eq_self_iff.2⟩
  intro id present
  obtain ⟨input, written, accepted, rows⟩ := impacts_follow_lastWrite given id present
  obtain ⟨row, member, key⟩ := List.mem_map.1 (hasIncident_iff.1 present)
  obtain ⟨i, rfl, bounds⟩ := times row member
  have same : i.id = id := Uuid.text_injective (Option.some.inj key)
  subst same
  have found := consistent.findIncident_eq member
  refine ⟨i.kept, input, input.impacts.mergeSort Impact.le, getIncident_of_found bounds found,
    rfl, written, List.mergeSort_perm _ _, Impact.pairwise_mergeSort accepted.targets, ?_⟩
  rw [← Incident.activeAt_row bounds asked]
  exact consistent.affectedComponents_eq found rows t

/-- An incident that begins after an instant in a leap second inside a minute is active for the
store at that instant, since it has begun at the instant that is shown. -/
theorem resolution_ahead_inside_minute :
    let later : NewIncident := { outageContent with beganAt := Instant.halfPastThirteen }
    let s := empty.run (outage ++ [(momentOf 0, .updateIncident (Uuid.ofNat 3) later)])
    let i := later.withId (Uuid.ofNat 3) ⟨1, 0⟩
    later.TimesIn Instant.FourDigitYear ∧ Instant.insideMinute.FourDigitYear ∧
      s.getIncident (Uuid.ofNat 3) = .ok (some i) ∧
      i.window.isActive (some Instant.insideMinute) = false ∧
      s.affectedComponents (Uuid.ofNat 3) (some Instant.insideMinute) = .ok later.impacts ∧
      s.listIncidents ⟨true, some Instant.insideMinute⟩ = .ok [i] := by
  decide +kernel

/-- The outage is in force from its first instant on. -/
theorem resolution_agrees_in_outage :
    (∀ step ∈ outage, step.2.TimesIn Instant.FourDigitYear) ∧
      (∀ u ∈ some Instant.epoch, u.FourDigitYear) ∧
      ∃ sorted, sorted.Perm outageContent.impacts ∧
        (empty.run outage).affectedComponents (Uuid.ofNat 3) (some Instant.epoch) = .ok sorted := by
  have given : ∀ step ∈ outage, step.2.TimesIn Instant.FourDigitYear := by decide
  have asked : ∀ u ∈ some Instant.epoch, u.FourDigitYear := by decide
  refine ⟨given, asked, ?_⟩
  obtain ⟨i, input, sorted, read, -, written, perm, -, answer⟩ :=
    (resolution_agrees given asked).1 (Uuid.ofNat 3) (by decide)
  have last : lastWrite (Uuid.ofNat 3) empty outage = some outageContent := by decide
  have shown : (empty.run outage).getIncident (Uuid.ofNat 3) =
      .ok (some ⟨Uuid.ofNat 3, "Outage", "", Instant.epoch, none, ⟨1, 0⟩⟩) := by decide
  rw [last] at written
  rw [shown] at read
  cases written
  cases read
  rw [if_pos (by decide)] at answer
  exact ⟨sorted, perm, answer⟩

end Store

end StatusPage
