import Mathlib
import StatusPage.Proofs.Store.Consistent
import StatusPage.Proofs.Store.Times

/-!
# What comes back

In a consistent store whose instants have years of four digits every row reads back: an incident as
`Incident.kept` of the one it was written from, an update likewise, identifiers, numbers and
severities as they were. `Consistent.findIncident_eq` ties the row that a call finds to the incident
that was written. A listing is a list sorted by a key (`mergeSort_map`), and `getIncident_of_found`
and `listIncidents_eq` say what callers are given.
-/

namespace StatusPage.Store

open Text

/-! ## Lists of rows -/

section Lists

variable {α β ε : Type}

theorem mapM_ok {f : α → Except ε β} {g : α → β} {l : List α} (each : ∀ a ∈ l, f a = .ok (g a)) :
    l.mapM f = .ok (l.map g) := by
  induction l with
  | nil => rfl
  | cons a rest ih =>
    have others := ih fun b later => each b (List.mem_cons_of_mem _ later)
    rw [List.mapM_cons, each a List.mem_cons_self, others]
    rfl

theorem mapM_ok_self {f : α → Except ε α} {l : List α} (each : ∀ a ∈ l, f a = .ok a) :
    l.mapM f = .ok l := by
  have same := mapM_ok (g := id) each
  rwa [List.map_id] at same

/-- Rows that are each written from something are written from a list. -/
theorem exists_map_eq {f : α → β} {p : α → Prop} {l : List β}
    (each : ∀ b ∈ l, ∃ a, b = f a ∧ p a) : ∃ as : List α, l = as.map f ∧ ∀ a ∈ as, p a := by
  induction l with
  | nil => exact ⟨[], rfl, by simp⟩
  | cons b rest ih =>
    obtain ⟨a, rfl, first⟩ := each b List.mem_cons_self
    obtain ⟨as, rfl, others⟩ := ih fun c later => each c (List.mem_cons_of_mem _ later)
    refine ⟨a :: as, rfl, ?_⟩
    intro c member
    rcases List.mem_cons.1 member with rfl | member
    · exact first
    · exact others c member

/-- Under a key that no other row has, a row is the one that is found. -/
theorem find?_eq_of_nodup [BEq β] [LawfulBEq β] {key : α → β} {l : List α}
    (distinct : (l.map key).Nodup)
    {a : α} (member : a ∈ l) : (l.find? fun b => key b == key a) = some a := by
  induction l with
  | nil => cases member
  | cons b rest ih =>
    rw [List.map_cons, List.nodup_cons] at distinct
    rcases List.mem_cons.1 member with rfl | later
    · rw [List.find?_cons_of_pos (by simp)]
    · have differ : key b ≠ key a := fun same => distinct.1 (List.mem_map.2 ⟨a, later, same.symm⟩)
      rw [List.find?_cons_of_neg (by simpa using differ)]
      exact ih distinct.2 later

end Lists

/-! ## Sorted lists -/

section Sorted

variable {α ρ κ ω : Type} [LinearOrder κ] [LinearOrder ω]

/-- A list in the order of a key. -/
def sortedBy (key : α → ω) (l : List α) : List α :=
  l.mergeSort fun a b => decide (key a ≤ key b)

theorem sortedBy_perm (key : α → ω) (l : List α) : (sortedBy key l).Perm l :=
  List.mergeSort_perm _ _

theorem mem_sortedBy {key : α → ω} {l : List α} {a : α} : a ∈ sortedBy key l ↔ a ∈ l :=
  List.mem_mergeSort

/-- By a key that no two elements share the order is strict. -/
theorem pairwise_sortedBy (key : α → ω) {l : List α} (distinct : (l.map key).Nodup) :
    (sortedBy key l).Pairwise fun a b => key a < key b := by
  have ascending : (sortedBy key l).Pairwise fun a b => decide (key a ≤ key b) = true := by
    refine List.pairwise_mergeSort ?_ ?_ l
    · intro a b c
      simp only [decide_eq_true_eq]
      exact le_trans
    · intro a b
      simp only [Bool.or_eq_true, decide_eq_true_eq]
      exact le_total _ _
  have different : (sortedBy key l).Pairwise fun a b => key a ≠ key b :=
    List.pairwise_map.1 (((sortedBy_perm key l).map key).nodup_iff.2 distinct)
  refine (ascending.and different).imp ?_
  intro a b both
  exact lt_of_le_of_ne (of_decide_eq_true both.1) both.2

/-- Rows come in the order of what they were written from. -/
theorem mergeSort_map {f : α → ρ} {r : ρ → ρ → Bool} {key : α → ω}
    (order : ∀ a b, r (f a) (f b) = decide (key a ≤ key b)) (l : List α) :
    (l.map f).mergeSort r = (sortedBy key l).map f :=
  (List.map_mergeSort fun a _ b _ => (order a b).symm).symm

/-- The order by one key and then by another is the order of the pairs. -/
theorem thenLe_eq {first : κ → κ → Bool} {a b : κ} {second : Bool} {c d : ω}
    (firsts : first a b = true ↔ a ≤ b) (seconds : second = true ↔ c ≤ d) :
    thenLe first a b second = decide (toLex (a, c) ≤ toLex (b, d)) := by
  rw [thenLe, Bool.eq_iff_iff, decide_eq_true_eq, Prod.Lex.toLex_le_toLex]
  split
  · next same => simp [same, seconds]
  · next differ => simp [differ, firsts, le_iff_lt_or_eq]

theorem textLe_iff {a b : String} : textLe a b = true ↔ a ≤ b := decide_eq_true_iff

end Sorted

variable {s : Store}

/-! ## Severities -/

/-- A severity is read as it was written. -/
theorem getSeverity_of_found {name : String} {severity : Severity}
    (found : (s.severities.rows.find? fun r => r.displayName == some name) =
      some ⟨some severity.displayName, cell8 severity.value⟩) :
    s.getSeverity name = .ok (some severity) := by
  have columns : SeverityRow.columns ⟨some severity.displayName, cell8 severity.value⟩ =
      .ok (severity.displayName, (severity.value.toNat : Int)) := rfl
  rw [getSeverity, found]
  simp only [columns, during_ok, ok_bind, severityOf, readSeverity_toNat]
  rfl

/-! ## Incidents -/

theorem Consistent.findIncident_eq (h : Consistent s) {i : Incident}
    (member : i.row ∈ s.incidents.rows) : s.findIncident i.id = some i.row :=
  find?_eq_of_nodup h.incidentKeys.distinct member

/-- An incident that is found is the one in the table under its identifier. -/
theorem IncidentTimes.exists_of_findIncident {p : Instant → Prop} (times : s.IncidentTimes p)
    {id : Uuid} {row : IncidentRow} (found : s.findIncident id = some row) :
    ∃ i : Incident, row = i.row ∧ i.id = id ∧ i.TimesIn p := by
  obtain ⟨member, key⟩ := mem_of_findIncident found
  obtain ⟨i, same, bounds⟩ := times row member
  rw [same] at key
  exact ⟨i, same, Uuid.text_injective (Option.some.inj key), bounds⟩

theorem getIncident_of_found {id : Uuid} {i : Incident} (bounds : i.TimesIn Instant.FourDigitYear)
    (found : s.findIncident id = some i.row) : s.getIncident id = .ok (some i.kept) := by
  rw [getIncident, found]
  simp only [i.columns_row, during_ok, ok_bind, i.incident_columns bounds]
  rfl

/-- What is read of an incident is what is kept of the one that was written. -/
theorem IncidentTimes.exists_of_getIncident (times : s.IncidentTimes Instant.FourDigitYear)
    {id : Uuid} {j : Incident} (read : s.getIncident id = .ok (some j)) :
    ∃ i : Incident, s.findIncident id = some i.row ∧ i.id = id ∧
      i.TimesIn Instant.FourDigitYear ∧ j = i.kept := by
  cases found : s.findIncident id with
  | none =>
    rw [getIncident, found] at read
    cases read
  | some row =>
    obtain ⟨i, rfl, same, bounds⟩ := times.exists_of_findIncident found
    rw [getIncident_of_found bounds found] at read
    cases read
    exact ⟨i, rfl, same, bounds, rfl⟩

/-- An update of an incident answers with the row that it wrote. -/
theorem IncidentTimes.incident_of_revise {p : Instant → Prop} (times : s.IncidentTimes p)
    {id : Uuid} {input : NewIncident} (given : input.TimesIn Instant.FourDigitYear)
    {old : IncidentRow} {columns : IncidentColumns} (found : s.findIncident id = some old)
    (written : (old.revise input).columns = .ok columns) :
    ∃ i : Incident, old = i.row ∧ i.id = id ∧
      columns.incident = .ok (input.withId i.id (input.phase.getD i.phase)).kept := by
  obtain ⟨i, rfl, same, -⟩ := times.exists_of_findIncident found
  rw [i.revise_row, Incident.columns_row] at written
  cases written
  exact ⟨i, rfl, same, Incident.incident_columns given⟩

/-- The key by which incidents are listed: the beginning, the latest first, then the identifier. -/
def beginningKey (i : Incident) : Stringᵒᵈ ×ₗ String :=
  toLex (OrderDual.toDual i.beganAt.storedText, i.id.text)

theorem incidentRow_le (i j : Incident) :
    i.row.le j.row = decide (beginningKey i ≤ beginningKey j) :=
  thenLe_eq (κ := Stringᵒᵈ) textLe_iff textLe_iff

/-- A listing shows the incidents of the rows that its query asks for, the latest first and then by
identifier. -/
theorem listIncidents_eq {is : List Incident} (rows : s.incidents.rows = is.map Incident.row)
    (bounds : ∀ i ∈ is, i.TimesIn Instant.FourDigitYear) (query : IncidentQuery) :
    s.listIncidents query = .ok ((sortedBy beginningKey (is.filter fun i =>
      !query.active || i.row.activeAt query.instant)).map Incident.kept) := by
  rw [listIncidents, rows, List.filter_map, mergeSort_map incidentRow_le]
  have columns (shown : List Incident) :
      (shown.map Incident.row).mapM IncidentRow.columns = .ok (shown.map Incident.columns) := by
    rw [List.mapM_map]
    exact mapM_ok fun i _ => i.columns_row
  rw [columns, during_ok, ok_bind, List.mapM_map]
  refine mapM_ok fun i member => i.incident_columns (bounds i ?_)
  exact List.mem_of_mem_filter (mem_sortedBy.1 member)

/-- A listing reads every row that the query asks for. -/
theorem exists_listIncidents (times : s.IncidentTimes Instant.FourDigitYear)
    (query : IncidentQuery) :
    ∃ is : List Incident, (∀ i ∈ is, i.TimesIn Instant.FourDigitYear) ∧
      (is.map Incident.row).Perm
        (s.incidents.rows.filter fun i => !query.active || i.activeAt query.instant) ∧
      s.listIncidents query = .ok (is.map Incident.kept) := by
  obtain ⟨is, rows, bounds⟩ := exists_map_eq times
  refine ⟨_, ?_, ?_, listIncidents_eq rows bounds query⟩
  · intro i member
    exact bounds i (List.mem_of_mem_filter (mem_sortedBy.1 member))
  · rw [rows, List.filter_map]
    exact (sortedBy_perm _ _).map _

end StatusPage.Store
