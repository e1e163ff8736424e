import Mathlib
import StatusPage.Proofs.Accepted
import StatusPage.Proofs.Store.Columns
import StatusPage.Store.Phases

/-!
# The log of generations

The table of phases is only ever added to, a whole generation at a time. So what it holds is told by
the lists of names that its generations were made from, in order: `logRows` writes such a log out as
rows and `PhaseLog` says that a table holds it. The highest generation of such a table is the length
of the log, and a write that goes through adds one list at its end (`PhaseLog.append`), which no
counter of 32 bits can spoil: a list too long for one, or a generation past the last, is refused.
-/

namespace StatusPage.Store

open Text

/-- The rows of a generation with the given names. -/
def generationRows (generation : Nat) (names : List String) : List PhaseRow :=
  names.zipIdx.map fun p => ⟨.int generation, .int p.2, p.1⟩

/-- The rows of generations numbered from one. -/
def logRows (log : List (List String)) : List PhaseRow :=
  (log.zipIdx 1).flatMap fun p => generationRows p.2 p.1

/-- A table of phases holds the generations of a log. -/
structure PhaseLog (rows : List PhaseRow) (log : List (List String)) : Prop where
  rows_eq : rows = logRows log
  length_lt : log.length < 2 ^ 32
  some_names : ∀ names ∈ log, names ≠ []
  names_le : ∀ names ∈ log, names.length ≤ 2 ^ 32
  visible : ∀ names ∈ log, ∀ name ∈ names, Visible name

/-! ## Rows of a log -/

theorem mem_generationRows {row : PhaseRow} {generation : Nat} {names : List String} :
    row ∈ generationRows generation names ↔
      ∃ (order : Nat) (name : String), names[order]? = some name ∧
        row = ⟨.int generation, .int order, name⟩ := by
  simp only [generationRows, List.mem_map, Prod.exists, List.mem_zipIdx_iff_getElem?]
  constructor
  · rintro ⟨name, order, found, rfl⟩
    exact ⟨order, name, found, rfl⟩
  · rintro ⟨order, name, found, rfl⟩
    exact ⟨name, order, found, rfl⟩

theorem mem_logRows {row : PhaseRow} {log : List (List String)} :
    row ∈ logRows log ↔
      ∃ (g : Nat) (names : List String), log[g]? = some names ∧
        row ∈ generationRows (g + 1) names := by
  simp only [logRows, List.mem_flatMap, Prod.exists, List.mk_mem_zipIdx_iff_le_and_getElem?_sub]
  constructor
  · rintro ⟨names, g, ⟨pos, found⟩, member⟩
    exact ⟨g - 1, names, found, by rwa [Nat.sub_add_cancel pos]⟩
  · rintro ⟨g, names, found, member⟩
    exact ⟨names, g + 1, ⟨Nat.le_add_left 1 g, by simpa using found⟩, member⟩

theorem logRows_append (log : List (List String)) (names : List String) :
    logRows (log ++ [names]) = logRows log ++ generationRows (log.length + 1) names := by
  simp [logRows, List.zipIdx_append, List.flatMap_append, Nat.add_comm]

theorem filter_generationRows_self (generation : Nat) (names : List String) :
    (generationRows generation names).filter (fun p => p.generation == .int generation) =
      generationRows generation names := by
  apply List.filter_eq_self.2
  intro row member
  obtain ⟨order, name, -, rfl⟩ := mem_generationRows.1 member
  simp

theorem filter_generationRows_of_ne {generation other : Nat} (ne : generation ≠ other)
    (names : List String) :
    (generationRows generation names).filter (fun p => p.generation == .int other) = [] := by
  apply List.filter_eq_nil_iff.2
  intro row member
  obtain ⟨order, name, -, rfl⟩ := mem_generationRows.1 member
  simp [ne]

/-- The rows of one generation stand together, and are the rows of its names. -/
theorem filter_logRows {log : List (List String)} {g : Nat} {names : List String}
    (found : log[g]? = some names) :
    (logRows log).filter (fun p => p.generation == .int ((g + 1 : Nat) : Int)) =
      generationRows (g + 1) names := by
  induction log using List.reverseRecOn with
  | nil => simp at found
  | append_singleton log last ih =>
    rw [logRows_append, List.filter_append]
    rcases Nat.lt_trichotomy g log.length with before | rfl | after
    · rw [List.getElem?_append_left before] at found
      rw [ih found, filter_generationRows_of_ne (by omega), List.append_nil]
    · rw [List.getElem?_concat_length, Option.some_inj] at found
      have earlier : (logRows log).filter
          (fun p => p.generation == .int ((log.length + 1 : Nat) : Int)) = [] := by
        apply List.filter_eq_nil_iff.2
        intro row member
        obtain ⟨k, others, known, member⟩ := mem_logRows.1 member
        obtain ⟨order, name, -, rfl⟩ := mem_generationRows.1 member
        obtain ⟨k_lt, -⟩ := List.getElem?_eq_some_iff.1 known
        simp only [beq_iff_eq, Cell.int.injEq]
        omega
      rw [earlier, filter_generationRows_self, found, List.nil_append]
    · rw [List.getElem?_eq_none (by simp; omega)] at found
      cases found

/-! ## The highest generation -/

theorem largest?_mem {cells : List Cell} {c : Cell} (found : Cell.largest? cells = some c) :
    c ∈ cells := by
  induction cells generalizing c with
  | nil => cases found
  | cons first rest ih =>
    simp only [Cell.largest?] at found
    cases below : Cell.largest? rest with
    | none =>
      rw [below] at found
      cases found
      exact List.mem_cons_self
    | some d =>
      rw [below] at found
      dsimp only at found
      split at found
      · cases found
        exact List.mem_cons_of_mem _ (ih below)
      · cases found
        exact List.mem_cons_self

theorem largest?_eq_none_iff {cells : List Cell} : Cell.largest? cells = none ↔ cells = [] := by
  cases cells with
  | nil => simp [Cell.largest?]
  | cons first rest => cases below : Cell.largest? rest <;> simp [Cell.largest?, below]

/-- The largest of some integers. -/
theorem largest?_eq_some {cells : List Cell} {n : Int} (member : .int n ∈ cells)
    (top : ∀ c ∈ cells, ∃ m : Int, m ≤ n ∧ c = .int m) : Cell.largest? cells = some (.int n) := by
  induction cells with
  | nil => cases member
  | cons first rest ih =>
    obtain ⟨m, m_le, rfl⟩ := top first List.mem_cons_self
    have rest_top : ∀ c ∈ rest, ∃ m : Int, m ≤ n ∧ c = .int m :=
      fun c later => top c (List.mem_cons_of_mem _ later)
    simp only [Cell.largest?]
    cases below : Cell.largest? rest with
    | none =>
      rw [largest?_eq_none_iff.1 below, List.mem_singleton] at member
      rw [member]
    | some d =>
      obtain ⟨k, k_le, rfl⟩ := rest_top d (largest?_mem below)
      rcases List.mem_cons.1 member with same | later
      · simp only [Cell.int.injEq] at same
        simp only [Cell.le, decide_eq_true_eq]
        split <;> simp only [Option.some.injEq, Cell.int.injEq] <;> omega
      · have largest := ih later rest_top
        rw [below, Option.some.injEq, Cell.int.injEq] at largest
        simp only [Cell.le, decide_eq_true_eq]
        split <;> simp only [Option.some.injEq, Cell.int.injEq] <;> omega

/-! ## A new generation -/

theorem numberPhases_eq (generation order : UInt32) (names : List String) :
    numberPhases generation order names =
      names.zipIdx.map fun p => ⟨p.1, generation, order + UInt32.ofNat p.2⟩ := by
  induction names generalizing order with
  | nil => rfl
  | cons name names ih =>
    have step (i : Nat) : order + 1 + UInt32.ofNat i = order + UInt32.ofNat (i + 1) := by
      rw [UInt32.ofNat_add, UInt32.add_assoc, UInt32.add_comm 1]
      rfl
    simp [numberPhases, ih, List.zipIdx_succ, step]

/-- Phases go in all together, each of some generation and under a key of its own. -/
theorem insertPhases_ok {table next : Table PhaseRow} {phases : List Phase}
    (inserted : insertPhases table phases = .ok next) :
    (∀ phase ∈ phases, phase.generation ≠ 0) ∧ (phases.map Phase.ref).Nodup ∧
      (∀ phase ∈ phases, ∀ row ∈ table.rows,
        ¬ (row.generation = cell32 phase.generation ∧ row.order = cell32 phase.order)) ∧
      next.rows = table.rows ++ phases.map phaseRow := by
  induction phases generalizing table with
  | nil =>
    cases inserted
    simp
  | cons phase rest ih =>
    simp only [insertPhases] at inserted
    split at inserted
    · cases inserted
    · next generation =>
      split at inserted
      · cases inserted
      · next fresh =>
        obtain ⟨generations, distinct, others, rows⟩ := ih inserted
        simp only [Table.rows_insert] at others rows
        have first : ∀ row ∈ table.rows,
            ¬ (row.generation = cell32 phase.generation ∧ row.order = cell32 phase.order) := by
          simpa using fresh
        refine ⟨?_, ?_, ?_, by simp [rows]⟩
        · intro other member
          rcases List.mem_cons.1 member with rfl | member
          · exact generation
          · exact generations other member
        · rw [List.map_cons, List.nodup_cons]
          refine ⟨?_, distinct⟩
          intro again
          obtain ⟨other, member, same⟩ := List.mem_map.1 again
          simp only [Phase.ref, PhaseRef.mk.injEq] at same
          exact others other member (phaseRow phase) (by simp)
            ⟨by rw [same.1]; rfl, by rw [same.2]; rfl⟩
        · intro other member row row_member
          rcases List.mem_cons.1 member with rfl | member
          · exact first row row_member
          · exact others other member row (List.mem_append_left _ row_member)

/-- Past the last number of 32 bits the numbers start again, so a longer list repeats a phase. -/
theorem length_le_of_nodup {generation : UInt32} {names : List String}
    (distinct : ((numberPhases generation 0 names).map Phase.ref).Nodup) :
    names.length ≤ 2 ^ 32 := by
  by_contra long
  have wrapped : UInt32.ofNat (2 ^ 32) = 0 := rfl
  rw [numberPhases_eq, List.map_map] at distinct
  have at_start := List.nodup_iff_pairwise_ne.1 distinct
  rw [List.pairwise_iff_getElem] at at_start
  apply at_start 0 (2 ^ 32) (by simp; omega) (by simp; omega) (by norm_num)
  simp only [List.getElem_map, List.getElem_zipIdx, Function.comp_apply, Phase.ref,
    PhaseRef.mk.injEq, true_and, Nat.zero_add, wrapped]
  rfl

/-- The rows of a new generation, if no number outgrows its 32 bits. -/
theorem map_phaseRow_numberPhases {n : Nat} {names : List String} (last : n + 1 < 2 ^ 32)
    (length_le : names.length ≤ 2 ^ 32) :
    (numberPhases (UInt32.ofNat n + 1) 0 names).map phaseRow = generationRows (n + 1) names := by
  have generation : cell32 (UInt32.ofNat n + 1) = .int ((n + 1 : Nat) : Int) := by
    rw [cell32, show UInt32.ofNat n + 1 = UInt32.ofNat (n + 1) from (UInt32.ofNat_add n 1).symm,
      UInt32.toNat_ofNat', Nat.mod_eq_of_lt last]
  rw [numberPhases_eq, generationRows, List.map_map]
  apply List.map_congr_left
  rintro ⟨name, i⟩ member
  have i_lt : i < 2 ^ 32 := by
    obtain ⟨i_lt, -⟩ := List.getElem?_eq_some_iff.1 (List.mk_mem_zipIdx_iff_getElem?.1 member)
    omega
  have order : cell32 (0 + UInt32.ofNat i) = .int (i : Int) := by
    rw [UInt32.zero_add, cell32, UInt32.toNat_ofNat', Nat.mod_eq_of_lt i_lt]
  simp only [Function.comp_apply, phaseRow, generation, order]

namespace PhaseLog

variable {rows : List PhaseRow} {log : List (List String)}

theorem nil : PhaseLog [] [] where
  rows_eq := rfl
  length_lt := by norm_num
  some_names := by simp
  names_le := by simp
  visible := by simp

/-- The highest generation of a table is the length of its log. -/
theorem maxGeneration {s : Store} (h : PhaseLog s.phases.rows log) :
    s.maxGeneration = .ok (UInt32.ofNat log.length) := by
  unfold Store.maxGeneration
  rw [h.rows_eq]
  cases log using List.reverseRecOn with
  | nil => rfl
  | append_singleton log last =>
    have last_some : last ≠ [] := h.some_names last (by simp)
    obtain ⟨name, others, rfl⟩ := List.exists_cons_of_ne_nil last_some
    have top : Cell.largest? ((logRows (log ++ [name :: others])).map (·.generation)) =
        some (.int ((log.length + 1 : Nat) : Int)) := by
      refine largest?_eq_some ?_ ?_
      · refine List.mem_map.2 ⟨⟨.int ((log.length + 1 : Nat) : Int), .int 0, name⟩, ?_, rfl⟩
        exact mem_logRows.2 ⟨log.length, name :: others, List.getElem?_concat_length,
          mem_generationRows.2 ⟨0, name, rfl, rfl⟩⟩
      · intro c member
        obtain ⟨row, row_member, rfl⟩ := List.mem_map.1 member
        obtain ⟨g, names, found, member⟩ := mem_logRows.1 row_member
        obtain ⟨order, name, -, rfl⟩ := mem_generationRows.1 member
        obtain ⟨g_lt, -⟩ := List.getElem?_eq_some_iff.1 found
        rw [List.length_append, List.length_singleton] at g_lt
        exact ⟨_, by omega, rfl⟩
    have length_lt := h.length_lt
    rw [List.length_append, List.length_singleton] at length_lt
    have small : log.length + 1 = (UInt32.ofNat (log.length + 1)).toNat := by
      rw [UInt32.toNat_ofNat', Nat.mod_eq_of_lt length_lt]
    rw [top, List.length_append, List.length_singleton]
    simp only [intColumn, Except.map]
    rw [small, lowBits_toNat, ← small]

/-- A generation that goes in is one more list at the end of the log. -/
theorem append {table next : Table PhaseRow} {names : List String} (h : PhaseLog table.rows log)
    (names_ne : names ≠ []) (names_visible : ∀ name ∈ names, Visible name)
    (inserted : insertPhases table (numberPhases (UInt32.ofNat log.length + 1) 0 names) =
      .ok next) :
    next.rows = table.rows ++ generationRows (log.length + 1) names ∧
      PhaseLog next.rows (log ++ [names]) := by
  obtain ⟨generations, distinct, -, rows⟩ := insertPhases_ok inserted
  have names_le := length_le_of_nodup distinct
  have last : log.length + 1 < 2 ^ 32 := by
    have length_lt := h.length_lt
    by_contra full
    have wrapped : log.length + 1 = 2 ^ 32 := by omega
    obtain ⟨name, others, rfl⟩ := List.exists_cons_of_ne_nil names_ne
    refine generations ⟨name, UInt32.ofNat log.length + 1, 0⟩ List.mem_cons_self ?_
    rw [show UInt32.ofNat log.length + 1 = UInt32.ofNat (log.length + 1) from
      (UInt32.ofNat_add log.length 1).symm, wrapped]
    rfl
  rw [map_phaseRow_numberPhases last names_le] at rows
  have all {p : List String → Prop} (old : ∀ names ∈ log, p names) (new : p names) :
      ∀ others ∈ log ++ [names], p others := by
    intro others member
    rcases List.mem_append.1 member with member | member
    · exact old others member
    · rwa [List.mem_singleton.1 member]
  refine ⟨rows, ?_, ?_, all h.some_names names_ne, all h.names_le names_le,
    all h.visible names_visible⟩
  · rw [rows, h.rows_eq, logRows_append]
  · rwa [List.length_append, List.length_singleton]

end PhaseLog

/-! ## Generations without gaps -/

/-- The generations run from one to the current one, and the phases of each from zero: there is at
least one, none is missing and none is there twice. No other generation has a row. -/
def GenerationsDense (s : Store) : Prop :=
  ∃ current, s.currentGeneration = .ok current ∧
    (∀ row ∈ s.phases.rows, ∃ g : Nat, 1 ≤ g ∧ g ≤ current.toNat ∧ row.generation = .int g) ∧
    ∀ g : Nat, 1 ≤ g → g ≤ current.toNat → ∃ k, 1 ≤ k ∧
      (s.phases.rows.filter fun row => row.generation == .int g).map (·.order) =
        (List.range k).map fun order => .int order

theorem PhaseLog.dense {s : Store} {log : List (List String)} (h : PhaseLog s.phases.rows log) :
    s.GenerationsDense := by
  have current : (UInt32.ofNat log.length).toNat = log.length := by
    rw [UInt32.toNat_ofNat', Nat.mod_eq_of_lt h.length_lt]
  refine ⟨UInt32.ofNat log.length, ?_, ?_, ?_⟩
  · rw [currentGeneration, h.maxGeneration]
    rfl
  · intro row member
    rw [h.rows_eq] at member
    obtain ⟨g, names, found, member⟩ := mem_logRows.1 member
    obtain ⟨order, name, -, rfl⟩ := mem_generationRows.1 member
    obtain ⟨g_lt, -⟩ := List.getElem?_eq_some_iff.1 found
    exact ⟨g + 1, by omega, by omega, rfl⟩
  · intro g g_pos g_le
    obtain ⟨g, rfl⟩ : ∃ k, g = k + 1 := ⟨g - 1, by omega⟩
    have found : log[g]? = some log[g] := List.getElem?_eq_getElem (by omega)
    have some_names := h.some_names _ (List.mem_of_getElem? found)
    refine ⟨log[g].length, List.length_pos_of_ne_nil some_names, ?_⟩
    rw [h.rows_eq, filter_logRows found, generationRows, List.map_map, List.range_eq_range',
      ← List.zipIdx_map_snd 0 log[g], List.map_map]
    rfl

theorem PhaseLog.names_visible {rows : List PhaseRow} {log : List (List String)}
    (h : PhaseLog rows log) : ∀ row ∈ rows, Visible row.name := by
  intro row member
  rw [h.rows_eq] at member
  obtain ⟨g, names, found, member⟩ := mem_logRows.1 member
  obtain ⟨order, name, known, rfl⟩ := mem_generationRows.1 member
  exact h.visible names (List.mem_of_getElem? found) name (List.mem_of_getElem? known)

end StatusPage.Store
