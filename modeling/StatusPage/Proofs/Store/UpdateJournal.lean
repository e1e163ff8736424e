import Mathlib
import StatusPage.Proofs.Provisioning
import StatusPage.Proofs.Store.LastWrite
import StatusPage.Proofs.Store.UpdateOrders

/-!
# The journal of an incident

Along a run a journal is kept of the numbers that updates of an incident were given and of those
that were given back, since the incident was there. `numbering_perform` lists what one operation can
do to the numbers in use and to the journal. Every number in use is below the count of those given,
and while none was given back the numbers in use are those given, counted from zero (`Numbered`). So
a number that is free stays free until every larger one is.
-/

namespace StatusPage.Store

open Text

/-! ## The journal of an incident -/

/-- What became of a number: an update was created with it, or the update of it was deleted. -/
inductive Entry where
  | created (order : UInt32)
  | deleted (order : UInt32)
  deriving DecidableEq

/-- The numbers that were given, one after the other. -/
def numbersGiven (entries : List Entry) : List UInt32 :=
  entries.filterMap fun
    | .created order => some order
    | .deleted _ => none

/-- What an operation adds to the journal of an incident. The journal ends with the incident. -/
def Operation.record (id : Uuid) (entries : List Entry) :
    (operation : Operation) → Outcome operation.Result → List Entry
  | .createUpdate incident _, o =>
    match o.answer with
    | .ok u => if incident = id then entries ++ [.created u.order] else entries
    | .error _ => entries
  | .deleteUpdate incident order, o =>
    if incident = id ∧ o.answer.isOk then entries ++ [.deleted order] else entries
  | .deleteIncident incident, o => if incident = id ∧ o.answer.isOk then [] else entries
  | _, _ => entries

/-- The journal of an incident after a run. -/
def journalFrom (id : Uuid) (entries : List Entry) : Store → List (Moment × Operation) → List Entry
  | _, [] => entries
  | s, (m, operation) :: rest =>
    journalFrom id (operation.record id entries (operation.perform m s))
      (operation.perform m s).store rest

/-- The journal of an incident after a run from the empty store: of the numbers given and given back
since the incident was there. -/
def journal (id : Uuid) (operations : List (Moment × Operation)) : List Entry :=
  journalFrom id [] empty operations

/-! ## One operation -/

/-- What an operation can do to the numbers of an incident, and what its journal says of it. -/
inductive Numbering (id : Uuid) (s : Store) (entries : List Entry) : Store → List Entry → Prop
  | kept {next : Store} (same : next.ordersOf id = s.ordersOf id) :
      Numbering id s entries next entries
  | created {next : Store} {order : UInt32} (follows : NextOrder (s.ordersOf id) order)
      (added : next.ordersOf id = s.ordersOf id ++ [order]) :
      Numbering id s entries next (entries ++ [.created order])
  | deleted {next : Store} {order : UInt32}
      (removed : next.ordersOf id = (s.ordersOf id).filter (· ≠ order)) :
      Numbering id s entries next (entries ++ [.deleted order])
  | ended {next : Store} (nothing : next.ordersOf id = []) : Numbering id s entries next []

/-- A call that fails leaves no trace in the journal. -/
theorem Operation.record_fail (id : Uuid) (entries : List Entry) (operation : Operation)
    (s : Store) (fault : Fault) : operation.record id entries (.fail s fault) = entries := by
  have no {α : Type} : (Outcome.fail (α := α) s fault).answer.isOk = false := rfl
  cases operation with
  | deleteUpdate => simp [record, no]
  | deleteIncident => simp [record, no]
  | _ => rfl

theorem numbering_createUpdate {s : Store} (h : s.Consistent) (id : Uuid) (entries : List Entry)
    (m : Moment) (incident : Uuid) (input : NewIncidentUpdate) :
    Numbering id s entries (s.createUpdate m.now incident input).store
      ((Operation.createUpdate incident input).record id entries
        (s.createUpdate m.now incident input)) := by
  rcases createUpdate_cases s m.now incident input with ⟨fault, failed⟩ | created
  · rw [failed, Operation.record_fail]
    exact .kept rfl
  · obtain ⟨order, -, allocated, done⟩ := created
    rw [done]
    by_cases same : incident = id
    · subst same
      simp only [Operation.record, if_pos]
      exact .created (h.nextOrder_of_allocateOrder allocated)
        (ordersOf_insert (input.numbered incident order m.now))
    · have other : (input.numbered incident order m.now).incident ≠ id := same
      simp only [Operation.record, NewIncidentUpdate.numbered, if_neg same]
      exact .kept (ordersOf_insert_of_ne other)

/-- The numbers of an incident after an operation, and the journal of it, are one of the cases. -/
theorem numbering_perform {s : Store} (h : s.Consistent) (id : Uuid) (entries : List Entry)
    (m : Moment) (operation : Operation) :
    Numbering id s entries (operation.perform m s).store
      (operation.record id entries (operation.perform m s)) := by
  by_cases creates : ∃ incident input, operation = .createUpdate incident input
  · obtain ⟨incident, input, rfl⟩ := creates
    exact numbering_createUpdate h id entries m incident input
  · have done := perform_effect m s operation
    generalize operation.perform m s = o at done ⊢
    cases done with
    | read reads =>
      cases operation with
      | deleteUpdate => cases reads
      | deleteIncident => cases reads
      | createUpdate incident input => exact absurd ⟨incident, input, rfl⟩ creates
      | _ => exact .kept rfl
    | failed fault =>
      rw [Operation.record_fail]
      exact .kept rfl
    | @createUpdate incident input => exact absurd ⟨incident, input, rfl⟩ creates
    | @updateUpdate incident order input old name found =>
      refine .kept (ordersOf_congr ?_ id)
      rw [keys_replace]
      intro u hit
      have key := List.find?_some found
      simp only [UpdateRow.isAt, Bool.and_eq_true, beq_iff_eq] at key hit
      rw [key.1, key.2, hit.1, hit.2]
    | @deleteUpdate incident order =>
      have orders := h.ordersOf_deleteUpdate incident id order
      by_cases same : incident = id
      · rw [if_pos same] at orders
        rw [Operation.record, if_pos ⟨same, rfl⟩]
        exact .deleted orders
      · rw [if_neg same] at orders
        rw [Operation.record, if_neg fun both => same both.1]
        exact .kept orders
    | @deleteIncident incident =>
      by_cases same : incident = id
      · subst same
        rw [Operation.record, if_pos ⟨rfl, rfl⟩]
        exact .ended (ordersOf_deleteIncident incident rfl)
      · rw [Operation.record, if_neg fun both => same both.1]
        exact .kept (ordersOf_deleteIncident_of_ne same rfl)
    | _ => exact .kept rfl

/-! ## Runs -/

theorem numbersGiven_created (entries : List Entry) (order : UInt32) :
    numbersGiven (entries ++ [.created order]) = numbersGiven entries ++ [order] := by
  rw [numbersGiven, List.filterMap_append]
  rfl

theorem numbersGiven_deleted (entries : List Entry) (order : UInt32) :
    numbersGiven (entries ++ [.deleted order]) = numbersGiven entries := by
  rw [numbersGiven, List.filterMap_append]
  exact List.append_nil _

/-- How the numbers in use stand to the journal of an incident: all are below the count of the
numbers given, and while none was given back they are those, counted from zero. -/
structure Numbered (s : Store) (id : Uuid) (entries : List Entry) : Prop where
  bound : ∀ n ∈ s.ordersOf id, n.toNat < (numbersGiven entries).length
  dense : (∀ n, Entry.deleted n ∉ entries) → (numbersGiven entries).length < 2 ^ 32 →
    s.ordersOf id = numbersGiven entries ∧
      (numbersGiven entries).map UInt32.toNat = List.range (numbersGiven entries).length

namespace Numbered

variable {s : Store} {id : Uuid} {entries : List Entry}

theorem nil (nothing : s.ordersOf id = []) : s.Numbered id [] where
  bound := by simp [nothing]
  dense := fun _ _ => ⟨nothing, rfl⟩

/-- The next number is at most the count of those given. -/
theorem next_le (h : s.Numbered id entries) {order : UInt32}
    (follows : NextOrder (s.ordersOf id) order) : order.toNat ≤ (numbersGiven entries).length := by
  cases follows with
  | first => exact Nat.zero_le _
  | @after top largest =>
    have below := h.bound top largest.1
    rw [UInt32.toNat_add]
    exact (Nat.mod_le _ _).trans below

/-- Below the last number of 32 bits, the number after the largest is larger by one. -/
theorem toNat_succ (h : s.Numbered id entries) (few : (numbersGiven entries).length < 2 ^ 32)
    {top : UInt32} (member : top ∈ s.ordersOf id) : (top + 1).toNat = top.toNat + 1 := by
  have below := h.bound top member
  rw [UInt32.toNat_add, UInt32.toNat_one]
  exact Nat.mod_eq_of_lt (by omega)

/-- If the numbers in use are those from zero, the next one is their count. -/
theorem next_eq (h : s.Numbered id entries) (few : (numbersGiven entries).length < 2 ^ 32)
    {order : UInt32} (follows : NextOrder (s.ordersOf id) order)
    (range : (s.ordersOf id).map UInt32.toNat = List.range (s.ordersOf id).length) :
    order.toNat = (s.ordersOf id).length := by
  cases follows with
  | first none_used =>
    rw [none_used]
    rfl
  | @after top largest =>
    have is_in {k : Nat} : k < (s.ordersOf id).length ↔ ∃ n ∈ s.ordersOf id, n.toNat = k := by
      rw [← List.mem_range, ← range, List.mem_map]
    have top_lt := is_in.2 ⟨top, largest.1, rfl⟩
    have last : (s.ordersOf id).length - 1 < (s.ordersOf id).length := by omega
    obtain ⟨n, n_member, n_eq⟩ := is_in.1 last
    have n_le : n.toNat ≤ top.toNat := UInt32.le_iff_toNat_le.1 (largest.2 n_member)
    rw [h.toNat_succ few largest.1]
    omega

/-- Every operation keeps the numbers in step with the journal. -/
theorem step (h : s.Numbered id entries) {next : Store} {later : List Entry}
    (change : Numbering id s entries next later) : next.Numbered id later := by
  cases change with
  | kept same => exact ⟨same ▸ h.bound, same ▸ h.dense⟩
  | @created order follows added =>
    have order_le := h.next_le follows
    refine ⟨?_, ?_⟩
    · intro n member
      rw [added, List.mem_append] at member
      rw [numbersGiven_created, List.length_append, List.length_singleton]
      rcases member with member | member
      · exact (h.bound n member).trans (Nat.lt_succ_self _)
      · rw [List.mem_singleton.1 member]
        exact Nat.lt_succ_of_le order_le
    · intro never few
      rw [numbersGiven_created, List.length_append, List.length_singleton] at few ⊢
      obtain ⟨same, range⟩ :=
        h.dense (fun n member => never n (List.mem_append_left _ member)) (by omega)
      rw [← same] at range
      have order_eq := h.next_eq (by omega) follows range
      refine ⟨by rw [added, same], ?_⟩
      rw [List.map_append, ← same, range, List.map_singleton, order_eq, List.range_succ]
  | @deleted order removed =>
    refine ⟨?_, ?_⟩
    · intro n member
      rw [removed] at member
      rw [numbersGiven_deleted]
      exact h.bound n (List.mem_of_mem_filter member)
    · intro never
      exact absurd (List.mem_append_right _ (List.mem_singleton_self _)) (never order)
  | ended nothing => exact .nil nothing

/-- A number that is not in use stays so while a larger one is in use. -/
theorem absent_step (h : s.Numbered id entries) {next : Store} {later : List Entry}
    (change : Numbering id s entries next later) (few : (numbersGiven entries).length < 2 ^ 32)
    {n larger : UInt32} (absent : n ∉ s.ordersOf id) (in_use : larger ∈ next.ordersOf id)
    (n_lt : n < larger) : n ∉ next.ordersOf id := by
  intro present
  cases change with
  | kept same =>
    rw [same] at present
    exact absent present
  | @created order follows added =>
    rw [added] at present in_use
    rcases List.mem_append.1 present with old | new
    · exact absent old
    · -- The new number is larger than all the others, so it is not below one of them.
      have n_eq := List.mem_singleton.1 new
      have larger_old : larger ∈ s.ordersOf id := by
        rcases List.mem_append.1 in_use with old | new
        · exact old
        · rw [List.mem_singleton.1 new, ← n_eq] at n_lt
          exact absurd n_lt (UInt32.lt_irrefl n)
      cases follows with
      | first none_used =>
        rw [none_used] at larger_old
        cases larger_old
      | @after top largest =>
        have larger_le : larger.toNat ≤ top.toNat :=
          UInt32.le_iff_toNat_le.1 (largest.2 larger_old)
        have lt := UInt32.lt_iff_toNat_lt.1 n_lt
        rw [n_eq, h.toNat_succ few largest.1] at lt
        omega
  | deleted removed =>
    rw [removed] at present
    exact absent (List.mem_of_mem_filter present)
  | ended nothing =>
    rw [nothing] at present
    cases present

end Numbered

/-- The journal of an incident that still has updates has not lost a number given. -/
theorem Numbering.length_numbersGiven_le {id : Uuid} {s next : Store} {entries later : List Entry}
    (change : Numbering id s entries next later) {n : UInt32} (present : n ∈ next.ordersOf id) :
    (numbersGiven entries).length ≤ (numbersGiven later).length := by
  cases change with
  | kept => exact Nat.le_refl _
  | created =>
    rw [numbersGiven_created, List.length_append]
    exact Nat.le_add_right _ _
  | deleted => rw [numbersGiven_deleted]
  | ended nothing =>
    rw [nothing] at present
    cases present

theorem journalFrom_append (id : Uuid) (entries : List Entry) (s : Store)
    (first rest : List (Moment × Operation)) :
    journalFrom id entries s (first ++ rest) =
      journalFrom id (journalFrom id entries s first) (s.run first) rest := by
  induction first generalizing entries s with
  | nil => rfl
  | cons step others ih => exact ih _ _

theorem numbered_run {s : Store} (h : s.Consistent) {id : Uuid} {entries : List Entry}
    (numbered : s.Numbered id entries) (operations : List (Moment × Operation)) :
    (s.run operations).Numbered id (journalFrom id entries s operations) := by
  induction operations generalizing s entries with
  | nil => exact numbered
  | cons step rest ih =>
    obtain ⟨m, operation⟩ := step
    have next := numbered.step (numbering_perform h id entries m operation)
    exact ih (h.effect (perform_effect m s operation)) next

theorem numbered_journal (id : Uuid) (operations : List (Moment × Operation)) :
    (empty.run operations).Numbered id (journal id operations) :=
  numbered_run .empty (.nil rfl) operations

/-- A number that is not in use at some point of a run is not in use again as long as a larger one
is in use throughout. -/
theorem absent_run {id : Uuid} {n : UInt32} {before later : List (Moment × Operation)}
    (few : (numbersGiven (journal id (before ++ later))).length < 2 ^ 32)
    (absent : n ∉ (empty.run before).ordersOf id)
    (covered : ∀ first, first ≠ [] → first <+: later →
      ∃ larger, n < larger ∧ larger ∈ (empty.run (before ++ first)).ordersOf id) :
    n ∉ (empty.run (before ++ later)).ordersOf id := by
  induction later using List.reverseRecOn with
  | nil =>
    rw [List.append_nil]
    exact absent
  | append_singleton earlier step ih =>
    obtain ⟨m, operation⟩ := step
    obtain ⟨larger, n_lt, in_use⟩ := covered _ (by simp) (List.prefix_refl _)
    rw [← List.append_assoc] at few in_use ⊢
    have consistent := consistent_run .empty (before ++ earlier)
    have change := numbering_perform consistent id (journal id (before ++ earlier)) m operation
    rw [journal, journalFrom_append] at few
    rw [run_append] at in_use ⊢
    have few_before := (change.length_numbersGiven_le in_use).trans_lt few
    have absent_before := ih few_before fun first some_steps within =>
      covered first some_steps (within.trans (List.prefix_append _ _))
    exact (numbered_journal id (before ++ earlier)).absent_step change few_before absent_before
      in_use n_lt

/-! ## The numbers of a run -/

/-- A creation of an update is answered with the number that was announced for it. It is zero if the
incident has no updates and otherwise one more than the largest number that they have. -/
theorem Numbered.order_of_createUpdate {s : Store} (h : s.Consistent) {id : Uuid}
    {entries : List Entry} (numbered : s.Numbered id entries)
    (few : (numbersGiven entries).length < 2 ^ 32) {now : Instant} {input : NewIncidentUpdate}
    {u : IncidentUpdate} (created : (s.createUpdate now id input).answer = .ok u) :
    s.nextUpdateOrder id = .ok u.order ∧
      ((∀ n, s.hasUpdate id n = false) ∧ u.order = 0 ∨
        ∃ top, IsGreatest {n | s.hasUpdate id n = true} top ∧
          u.order.toNat = top.toNat + 1) := by
  rcases createUpdate_cases s now id input with ⟨fault, failed⟩ | ⟨order, known, allocated, done⟩
  · rw [failed] at created
    cases created
  · rw [done] at created
    cases created
    refine ⟨?_, ?_⟩
    · rw [nextUpdateOrder, if_pos known, allocated]
      rfl
    · have present : {n | s.hasUpdate id n = true} = {n | n ∈ s.ordersOf id} := by
        ext n
        exact h.hasUpdate_iff id
      have follows := h.nextOrder_of_allocateOrder allocated
      rw [present]
      cases follows with
      | first none_used =>
        refine Or.inl ⟨fun n => ?_, rfl⟩
        rw [← Bool.not_eq_true, h.hasUpdate_iff, none_used]
        exact List.not_mem_nil
      | @after top largest => exact Or.inr ⟨top, largest, numbered.toNat_succ few largest.1⟩

/-- In any run from the empty store that gives an incident fewer numbers than there are, and whose
clock shows years of four digits: a creation of an update gets the announced number, the one after
the largest. The updates are listed in strictly ascending order, and if none was deleted since the
incident was there, they have the numbers from zero in the order of their creation. A number that no
update has at some point stays free as long as some update has a larger one throughout. -/
theorem update_numbers_follow_creation (operations : List (Moment × Operation)) (id : Uuid)
    (few : (numbersGiven (journal id operations)).length < 2 ^ 32 - 1)
    (clock : ∀ step ∈ operations, step.1.now.FourDigitYear) :
    (∀ (now : Instant) (input : NewIncidentUpdate) (u : IncidentUpdate),
        ((empty.run operations).createUpdate now id input).answer = .ok u →
        (empty.run operations).nextUpdateOrder id = .ok u.order ∧
          ((∀ n, (empty.run operations).hasUpdate id n = false) ∧ u.order = 0 ∨
            ∃ top, IsGreatest {n | (empty.run operations).hasUpdate id n = true} top ∧
              u.order.toNat = top.toNat + 1)) ∧
      ((empty.run operations).hasIncident id = true →
        ∃ listed, (empty.run operations).listUpdates id = .ok listed ∧
          (listed.map (·.order)).Pairwise (· < ·) ∧
          (∀ n, n ∈ listed.map (·.order) ↔ (empty.run operations).hasUpdate id n = true) ∧
          ((∀ n, Entry.deleted n ∉ journal id operations) →
            listed.map (·.order) = numbersGiven (journal id operations) ∧
              listed.map (·.order.toNat) = List.range listed.length)) ∧
      ∀ (before later : List (Moment × Operation)) (n : UInt32), operations = before ++ later →
        (empty.run before).hasUpdate id n = false →
        (∀ first, first ≠ [] → first <+: later →
          ∃ larger, n < larger ∧ (empty.run (before ++ first)).hasUpdate id larger = true) →
        (empty.run operations).hasUpdate id n = false := by
  have consistent := consistent_run .empty operations
  have numbered := numbered_journal id operations
  refine ⟨?_, ?_, ?_⟩
  · intro now input u created
    exact numbered.order_of_createUpdate consistent (by omega) created
  · intro known
    obtain ⟨listed, answer, ascending, same⟩ :=
      exists_listUpdates consistent (updateTimes_run .empty clock) known
    refine ⟨listed, answer, ascending, ?_, ?_⟩
    · intro n
      rw [same.mem_iff, consistent.hasUpdate_iff]
    · intro never
      obtain ⟨orders, range⟩ := numbered.dense never (by omega)
      rw [orders] at same
      -- Two ascending lists of the same numbers are the same list.
      have naturals : (List.range (numbersGiven (journal id operations)).length).Pairwise (· < ·) :=
        List.pairwise_lt_range
      have numbers_ascending : (numbersGiven (journal id operations)).Pairwise (· < ·) := by
        rw [← range, List.pairwise_map] at naturals
        exact naturals.imp fun lt => UInt32.lt_iff_toNat_lt.2 lt
      have listed_eq : listed.map (·.order) = numbersGiven (journal id operations) :=
        same.eq_of_pairwise (fun a b _ _ lt gt => absurd gt (UInt32.lt_asymm lt)) ascending
          numbers_ascending
      refine ⟨listed_eq, ?_⟩
      have length_eq : listed.length = (numbersGiven (journal id operations)).length := by
        rw [← listed_eq, List.length_map]
      rw [length_eq, ← range, ← listed_eq, List.map_map]
      rfl
  · intro before later n split_run absent covered
    subst split_run
    have consistent_before := consistent_run .empty before
    rw [← Bool.not_eq_true, consistent_before.hasUpdate_iff] at absent
    rw [← Bool.not_eq_true, consistent.hasUpdate_iff]
    refine absent_run (by omega) absent ?_
    intro first some_steps within
    obtain ⟨larger, n_lt, present⟩ := covered first some_steps within
    exact ⟨larger, n_lt, ((consistent_run .empty _).hasUpdate_iff id).1 present⟩

/-- Three updates of an outage, the first of them deleted before the last was created. -/
def annotatedOutage : List (Moment × Operation) :=
  outage ++ [(momentOf 0, .createUpdate (Uuid.ofNat 3) ⟨"Seen", ""⟩),
    (momentOf 0, .createUpdate (Uuid.ofNat 3) ⟨"Understood", ""⟩),
    (momentOf 0, .deleteUpdate (Uuid.ofNat 3) 0),
    (momentOf 0, .createUpdate (Uuid.ofNat 3) ⟨"Fixed", ""⟩)]

/-- The number that was given back is not given again. -/
theorem update_numbers_follow_creation_annotated :
    (numbersGiven (journal (Uuid.ofNat 3) annotatedOutage)).length < 2 ^ 32 - 1 ∧
      (∀ step ∈ annotatedOutage, step.1.now.FourDigitYear) ∧
      ∃ listed, (empty.run annotatedOutage).listUpdates (Uuid.ofNat 3) = .ok listed ∧
        (listed.map (·.order)).Pairwise (· < ·) ∧
        ∀ n, n ∈ listed.map (·.order) ↔ n = 1 ∨ n = 2 := by
  have entries : journal (Uuid.ofNat 3) annotatedOutage =
      [.created 0, .created 1, .deleted 0, .created 2] := by decide
  have few : (numbersGiven (journal (Uuid.ofNat 3) annotatedOutage)).length < 2 ^ 32 - 1 := by
    rw [entries]
    decide
  have clock : ∀ step ∈ annotatedOutage, step.1.now.FourDigitYear := by decide
  have orders : (empty.run annotatedOutage).ordersOf (Uuid.ofNat 3) = [1, 2] := by decide
  obtain ⟨-, listing, -⟩ :=
    update_numbers_follow_creation annotatedOutage (Uuid.ofNat 3) few clock
  obtain ⟨listed, answer, ascending, member, -⟩ := listing (by decide)
  refine ⟨few, clock, listed, answer, ascending, ?_⟩
  intro n
  rw [member, (consistent_run .empty annotatedOutage).hasUpdate_iff, orders]
  simp

end StatusPage.Store
