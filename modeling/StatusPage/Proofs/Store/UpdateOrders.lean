import Mathlib
import StatusPage.Proofs.Store.Reading

/-!
# Numbers of updates

The numbers that the updates of an incident have are `ordersOf`. A creation adds one at the end, the
one after the largest (`createUpdate_cases`, `NextOrder`), a deletion takes one out, with the
incident all of them go, and nothing else that is written changes them. A listing shows each of them
once, in ascending order (`listUpdates_eq`, `exists_listUpdates`).
-/

namespace StatusPage

/-- The update that a new one becomes, with its number and the instant of its creation. -/
def NewIncidentUpdate.numbered (input : NewIncidentUpdate) (id : Uuid) (order : UInt32)
    (createdAt : Instant) : IncidentUpdate :=
  ⟨id, order, input.displayName, input.description, createdAt⟩

namespace Store

open Text

/-! ## The numbers in use -/

/-- The number that a cell stands for. -/
def Cell.number : Cell → UInt32
  | .int n => lowBits n
  | _ => 0

@[simp] theorem Cell.number_cell32 (n : UInt32) : (cell32 n).number = n :=
  lowBits_toNat n

/-- The numbers of the updates of an incident, in the order of their creation. -/
def ordersOf (s : Store) (id : Uuid) : List UInt32 := (s.updatesOf id).map fun u => u.order.number

/-- Whether an incident has an update of the given number. -/
def hasUpdate (s : Store) (id : Uuid) (order : UInt32) : Bool :=
  s.updates.rows.any fun u => u.isAt id order

theorem isAt_row (e : IncidentUpdate) (id : Uuid) (order : UInt32) :
    e.row.isAt id order = decide (e.incident = id ∧ e.order = order) := by
  rw [Bool.eq_iff_iff]
  simp only [UpdateRow.isAt, IncidentUpdate.row, Bool.and_eq_true, beq_iff_eq, Uuid.text_inj,
    cell32_inj, decide_eq_true_eq]

section

variable {s : Store} {es : List IncidentUpdate}

theorem updatesOf_eq (rows : s.updates.rows = es.map IncidentUpdate.row) (id : Uuid) :
    s.updatesOf id = (es.filter fun e => e.incident = id).map IncidentUpdate.row := by
  rw [updatesOf, rows, List.filter_map]
  refine congrArg (List.map IncidentUpdate.row) (List.filter_congr ?_)
  intro e _
  rw [Bool.eq_iff_iff]
  simp only [IncidentUpdate.row, Function.comp_apply, beq_iff_eq, Uuid.text_inj, decide_eq_true_eq]

theorem ordersOf_eq (rows : s.updates.rows = es.map IncidentUpdate.row) (id : Uuid) :
    s.ordersOf id = (es.filter fun e => e.incident = id).map (·.order) := by
  rw [ordersOf, updatesOf_eq rows, List.map_map]
  apply List.map_congr_left
  intro e _
  exact Cell.number_cell32 e.order

end

namespace Consistent

variable {s : Store} (h : s.Consistent) (id : Uuid)

include h

/-- The table of updates is written from updates. -/
theorem exists_updates :
    ∃ es : List IncidentUpdate, s.updates.rows = es.map IncidentUpdate.row := by
  obtain ⟨es, rows, -⟩ := exists_map_eq h.updateRows
  exact ⟨es, rows⟩

theorem map_cell32_ordersOf : (s.ordersOf id).map cell32 = (s.updatesOf id).map (·.order) := by
  obtain ⟨es, rows⟩ := h.exists_updates
  rw [ordersOf_eq rows, updatesOf_eq rows, List.map_map, List.map_map]
  rfl

theorem hasUpdate_iff {order : UInt32} : s.hasUpdate id order = true ↔ order ∈ s.ordersOf id := by
  obtain ⟨es, rows⟩ := h.exists_updates
  simp only [hasUpdate, rows, List.any_map, List.any_eq_true, Function.comp_apply, isAt_row,
    decide_eq_true_eq, ordersOf_eq rows, List.mem_map, List.mem_filter]
  constructor
  · intro present
    rcases present with ⟨e, member, incident, same⟩
    exact ⟨e, ⟨member, incident⟩, same⟩
  · intro listed
    rcases listed with ⟨e, ⟨member, incident⟩, same⟩
    exact ⟨e, member, incident, same⟩

/-- No number is in use twice. -/
theorem nodup_ordersOf : (s.ordersOf id).Nodup := by
  obtain ⟨es, rows⟩ := h.exists_updates
  have distinct := h.updateOrders
  rw [rows, List.map_map] at distinct
  rw [ordersOf_eq rows]
  refine List.Nodup.map_on ?_ (distinct.of_map.filter _)
  intro e member other other_member same
  rw [List.mem_filter, decide_eq_true_eq] at member other_member
  refine List.inj_on_of_nodup_map distinct member.1 other_member.1 ?_
  simp only [Function.comp_apply, IncidentUpdate.row, same, member.2, other_member.2]

end Consistent

/-! ## The next number -/

/-- The number that comes after those in use: the first one, or the one after the largest. -/
inductive NextOrder (orders : List UInt32) : UInt32 → Prop
  | first (none_used : orders = []) : NextOrder orders 0
  | after {top : UInt32} (largest : IsGreatest {n | n ∈ orders} top) : NextOrder orders (top + 1)

theorem exists_isGreatest {orders : List UInt32} (used : orders ≠ []) :
    ∃ top, IsGreatest {n | n ∈ orders} top := by
  have nonempty : orders.toFinset.Nonempty := (List.toFinset_nonempty_iff orders).2 used
  obtain ⟨top, member, greatest⟩ :=
    Finset.exists_max_image orders.toFinset UInt32.toNat nonempty
  refine ⟨top, List.mem_toFinset.1 member, ?_⟩
  intro n n_member
  exact greatest n (List.mem_toFinset.2 n_member)

theorem largest?_map_cell32 {orders : List UInt32} {top : UInt32}
    (largest : IsGreatest {n | n ∈ orders} top) :
    Cell.largest? (orders.map cell32) = some (cell32 top) := by
  refine largest?_eq_some (List.mem_map.2 ⟨top, largest.1, rfl⟩) ?_
  intro c member
  obtain ⟨n, n_member, rfl⟩ := List.mem_map.1 member
  exact ⟨n.toNat, Int.ofNat_le.2 (largest.2 n_member), rfl⟩

/-- There is always a next number, and it is the one that comes after those in use. -/
theorem Consistent.exists_allocateOrder {s : Store} (h : s.Consistent) (id : Uuid) :
    ∃ order, s.allocateOrder id = .ok order ∧ NextOrder (s.ordersOf id) order := by
  unfold allocateOrder
  rw [← h.map_cell32_ordersOf id]
  by_cases used : s.ordersOf id = []
  · rw [used]
    exact ⟨0, rfl, .first rfl⟩
  · obtain ⟨top, largest⟩ := exists_isGreatest used
    rw [largest?_map_cell32 largest]
    refine ⟨top + 1, ?_, .after largest⟩
    simp only [intColumn, cell32, Except.map, lowBits_toNat, nextOrder]

theorem Consistent.nextOrder_of_allocateOrder {s : Store} (h : s.Consistent) {id : Uuid}
    {order : UInt32} (allocated : s.allocateOrder id = .ok order) :
    NextOrder (s.ordersOf id) order := by
  obtain ⟨other, same, next⟩ := h.exists_allocateOrder id
  rw [allocated, Except.ok.injEq] at same
  rwa [same]

/-- The creation of an update fails, or the update gets the next number and goes in at the end. -/
theorem createUpdate_cases (s : Store) (now : Instant) (id : Uuid) (input : NewIncidentUpdate) :
    (∃ fault, s.createUpdate now id input = .fail s fault) ∨
      ∃ order, s.hasIncident id = true ∧ s.allocateOrder id = .ok order ∧
        s.createUpdate now id input = ⟨.ok (input.numbered id order now.truncate),
          { s with updates := s.updates.insert (input.numbered id order now).row }⟩ := by
  unfold createUpdate
  refine Outcome.ofWrite_cases (motive := fun o : Outcome IncidentUpdate =>
    (∃ fault, o = .fail s fault) ∨
      ∃ order, s.hasIncident id = true ∧ s.allocateOrder id = .ok order ∧
        o = ⟨.ok (input.numbered id order now.truncate),
          { s with updates := s.updates.insert (input.numbered id order now).row }⟩) ?_ ?_
  · intro fault
    exact Or.inl ⟨fault, rfl⟩
  · intro order next written
    simp only [bind_ok_iff, unless_ok_iff, refusing_ok_iff, during_ok_iff,
      Bool.not_eq_true] at written
    obtain ⟨-, -, known, allocated, same, -, done⟩ := written
    cases done
    exact Or.inr ⟨order, by simpa using known, same, rfl⟩

/-! ## The numbers after a write -/

section

variable {s : Store}

theorem ordersOf_insert (e : IncidentUpdate) :
    ordersOf { s with updates := s.updates.insert e.row } e.incident =
      s.ordersOf e.incident ++ [e.order] := by
  rw [ordersOf, updatesOf, Table.rows_insert, List.filter_append, List.map_append]
  simp [IncidentUpdate.row, ordersOf, updatesOf]

theorem ordersOf_insert_of_ne {e : IncidentUpdate} {id : Uuid} (other : e.incident ≠ id) :
    ordersOf { s with updates := s.updates.insert e.row } id = s.ordersOf id := by
  rw [ordersOf, updatesOf, Table.rows_insert, List.filter_append, List.map_append]
  simp [IncidentUpdate.row, other, ordersOf, updatesOf]

theorem Consistent.ordersOf_deleteUpdate (h : s.Consistent) (incident id : Uuid) (order : UInt32) :
    ordersOf { s with updates := s.updates.filter fun u => !u.isAt incident order } id =
      if incident = id then (s.ordersOf id).filter (· ≠ order) else s.ordersOf id := by
  obtain ⟨es, rows⟩ := h.exists_updates
  have left : (s.updates.filter fun u => !u.isAt incident order).rows =
      (es.filter fun e => ¬ (e.incident = incident ∧ e.order = order)).map IncidentUpdate.row := by
    rw [Table.rows_filter, rows, List.filter_map]
    refine congrArg (List.map IncidentUpdate.row) (List.filter_congr ?_)
    intro e _
    simp only [Function.comp_apply, isAt_row, decide_not]
  rw [ordersOf_eq left, ordersOf_eq rows, List.filter_filter]
  split
  · next same =>
    subst same
    rw [List.filter_map, List.filter_filter]
    refine congrArg (List.map IncidentUpdate.order) (List.filter_congr ?_)
    intro e _
    by_cases here : e.incident = incident <;> simp [here]
  · next other =>
    refine congrArg (List.map IncidentUpdate.order) (List.filter_congr ?_)
    intro e _
    by_cases here : e.incident = id
    · simp [here, Ne.symm other]
    · simp [here]

theorem ordersOf_deleteIncident (id : Uuid) {next : Store}
    (updates : next.updates = s.updates.filter fun u => u.incident ≠ id.text) :
    next.ordersOf id = [] := by
  rw [ordersOf, updatesOf, updates, Table.rows_filter, List.filter_filter, List.map_eq_nil_iff,
    List.filter_eq_nil_iff]
  intro u _
  by_cases here : u.incident = id.text <;> simp [here]

theorem ordersOf_deleteIncident_of_ne {incident id : Uuid} (other : incident ≠ id) {next : Store}
    (updates : next.updates = s.updates.filter fun u => u.incident ≠ incident.text) :
    next.ordersOf id = s.ordersOf id := by
  have texts : incident.text ≠ id.text := fun same => other (Uuid.text_injective same)
  rw [ordersOf, updatesOf, updates, Table.rows_filter, filter_key_of_ne texts, ordersOf, updatesOf]

/-- The numbers are read off the keys of the rows. -/
theorem ordersOf_congr {next : Store}
    (keys : (next.updates.rows.map fun u => (u.incident, u.order)) =
      s.updates.rows.map fun u => (u.incident, u.order)) (id : Uuid) :
    next.ordersOf id = s.ordersOf id := by
  have read (t : Store) : t.ordersOf id =
      ((t.updates.rows.map fun u => (u.incident, u.order)).filter fun key =>
        key.1 == id.text).map fun key => key.2.number := by
    rw [List.filter_map, List.map_map]
    rfl
  rw [read, read, keys]

end

/-! ## Listings -/

theorem order_le_row (e f : IncidentUpdate) :
    e.row.order.le f.row.order = decide (e.order.toNat ≤ f.order.toNat) := by
  simp only [IncidentUpdate.row, cell32, Cell.le, Int.ofNat_le]

/-- A listing shows the updates of an incident by number. -/
theorem listUpdates_eq {s : Store} {es : List IncidentUpdate}
    (rows : s.updates.rows = es.map IncidentUpdate.row)
    (created : ∀ e ∈ es, e.createdAt.FourDigitYear) {id : Uuid} (known : s.hasIncident id = true) :
    s.listUpdates id = .ok ((sortedBy (fun e : IncidentUpdate => e.order.toNat)
      (es.filter fun e => e.incident = id)).map fun e =>
        { e with createdAt := e.createdAt.kept }) := by
  have sorted := mergeSort_map (f := IncidentUpdate.row)
    (r := fun u v : UpdateRow => u.order.le v.order) order_le_row
  have columns (shown : List IncidentUpdate) : (shown.map IncidentUpdate.row).mapM (fun u =>
      (intColumn 1 "ordinal" u.order).map fun order => (u, order)) =
      .ok (shown.map fun e => (e.row, (e.order.toNat : Int))) := by
    rw [List.mapM_map]
    exact mapM_ok fun e _ => rfl
  rw [listUpdates, if_pos known, updatesOf_eq rows, sorted, columns, during_ok, ok_bind,
    List.mapM_map]
  refine mapM_ok fun e member => e.update_row (created e ?_)
  exact List.mem_of_mem_filter (mem_sortedBy.1 member)

/-- The updates of an incident are listed by number. -/
theorem exists_listUpdates {s : Store} (h : s.Consistent)
    (times : s.UpdateTimes Instant.FourDigitYear) {id : Uuid} (known : s.hasIncident id = true) :
    ∃ listed, s.listUpdates id = .ok listed ∧ (listed.map (·.order)).Pairwise (· < ·) ∧
      (listed.map (·.order)).Perm (s.ordersOf id) := by
  obtain ⟨es, rows, created⟩ := exists_map_eq times
  have distinct := h.nodup_ordersOf id
  rw [ordersOf_eq rows] at distinct ⊢
  refine ⟨_, listUpdates_eq rows created known, ?_, ?_⟩
  · rw [List.map_map, List.pairwise_map]
    refine pairwise_sortedBy (fun e : IncidentUpdate => e.order.toNat) ?_
    have numbers := distinct.map (f := UInt32.toNat) fun m n => UInt32.toNat_inj.1
    rwa [List.map_map] at numbers
  · rw [List.map_map]
    exact (sortedBy_perm _ _).map _

end Store

end StatusPage
