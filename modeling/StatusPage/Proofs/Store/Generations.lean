import Mathlib
import StatusPage.Proofs.Provisioning
import StatusPage.Proofs.Store.LastWrite

/-!
# Generations are a log

The names of the generations that were ever created, in the order of their creation, are all that
there is to know of the phases of a store: `generationsOf` collects them along a history of calls
and provisionings, and `generations_append_only` reads every answer about phases off them. No later
action takes a generation away or changes one, and the phase that an incident names changes only in
an update that names another.
-/

namespace StatusPage.Store

open Text

/-! ## Answers from a log -/

namespace PhaseLog

variable {s : Store} {log : List (List String)}

theorem toNat_ofNat_length (h : PhaseLog s.phases.rows log) :
    (UInt32.ofNat log.length).toNat = log.length := by
  rw [UInt32.toNat_ofNat', Nat.mod_eq_of_lt h.length_lt]

theorem currentGeneration_eq (h : PhaseLog s.phases.rows log) :
    s.currentGeneration = .ok (UInt32.ofNat log.length) := by
  rw [currentGeneration, h.maxGeneration, during_ok]

/-- Before the first generation the log is empty. -/
theorem eq_nil_of_first (h : PhaseLog s.phases.rows log) (first : s.currentGeneration = .ok 0) :
    log = [] := by
  have length_eq := h.toNat_ofNat_length
  rw [h.currentGeneration_eq, Except.ok.injEq] at first
  rw [first, UInt32.toNat_zero] at length_eq
  exact List.length_eq_zero_iff.1 length_eq.symm

/-- Among generations numbered in 32 bits no two share a number. -/
theorem cell32_generation (h : PhaseLog s.phases.rows log) {g : Nat} (g_lt : g < log.length) :
    cell32 (UInt32.ofNat (g + 1)) = .int ((g + 1 : Nat) : Int) := by
  have length_lt := h.length_lt
  rw [cell32, UInt32.toNat_ofNat', Nat.mod_eq_of_lt (by omega)]

/-- The rows of a generation are numbered from zero. -/
theorem map_order_generationRows (generation : Nat) (names : List String) :
    (generationRows generation names).map (·.order) =
      (List.range names.length).map fun order => .int order := by
  rw [generationRows, List.map_map, List.range_eq_range', ← List.zipIdx_map_snd 0 names,
    List.map_map]
  rfl

/-- The rows of a generation stand in the order of their phases already. -/
theorem mergeSort_generationRows (generation : Nat) (names : List String) :
    (generationRows generation names).mergeSort (fun a b => a.order.le b.order) =
      generationRows generation names := by
  have ascending : ((generationRows generation names).map (·.order)).Pairwise
      fun a b => a.le b = true := by
    rw [map_order_generationRows, List.pairwise_map]
    refine List.pairwise_lt_range.imp ?_
    intro a b before
    simp only [Cell.le, decide_eq_true_eq]
    omega
  exact List.mergeSort_of_pairwise (List.pairwise_map.1 ascending)

/-- The phases of a generation are listed as they were given. -/
theorem phaseNames_eq (h : PhaseLog s.phases.rows log) {g : Nat} {names : List String}
    (found : log[g]? = some names) : s.phaseNames (UInt32.ofNat (g + 1)) = names := by
  obtain ⟨g_lt, -⟩ := List.getElem?_eq_some_iff.1 found
  rw [phaseNames, h.cell32_generation g_lt, h.rows_eq, filter_logRows found,
    mergeSort_generationRows, generationRows, List.map_map]
  exact List.zipIdx_map_fst 0 names

theorem listPhases_eq (h : PhaseLog s.phases.rows log) (requested : Option Int) :
    s.listPhases requested =
      refusing ((resolveGeneration requested (UInt32.ofNat log.length)).map s.phaseNames) := by
  rw [listPhases, h.maxGeneration, during_ok, ok_bind]
  cases resolveGeneration requested (UInt32.ofNat log.length) <;> rfl

/-- The current generation is the last one of the log. -/
theorem listPhases_none (h : PhaseLog s.phases.rows log) :
    s.listPhases none =
      log.getLast?.elim (.error (.refused (.generationNotFound 0))) .ok := by
  rw [h.listPhases_eq]
  cases log using List.reverseRecOn with
  | nil => rfl
  | append_singleton log last =>
    have current : UInt32.ofNat (log ++ [last]).length ≠ 0 := by
      intro zero
      have length_eq := h.toNat_ofNat_length
      rw [zero] at length_eq
      simp at length_eq
    have found : (log ++ [last])[log.length]? = some last := List.getElem?_concat_length
    have names := h.phaseNames_eq found
    rw [List.length_append, List.length_singleton] at current ⊢
    simp only [resolveGeneration, if_neg current, List.getLast?_concat, Option.elim_some]
    exact congrArg Except.ok names

theorem listPhases_of_lt (h : PhaseLog s.phases.rows log) {g : Int} (below : g < 1) :
    s.listPhases (some g) = .error (.refused (.invalid (.generationBelowOne g))) := by
  rw [h.listPhases_eq]
  simp only [resolveGeneration, if_pos below]
  rfl

theorem listPhases_of_gt (h : PhaseLog s.phases.rows log) {g : Int} (above : log.length < g) :
    ∃ n, s.listPhases (some g) = .error (.refused (.generationNotFound n)) := by
  have pos : ¬ g < 1 := by omega
  have beyond : ¬ g ≤ (UInt32.ofNat log.length).toNat := by
    rw [h.toNat_ofNat_length]
    omega
  rw [h.listPhases_eq]
  simp only [resolveGeneration, if_neg pos, if_neg beyond]
  split
  · exact ⟨_, rfl⟩
  · exact ⟨_, rfl⟩

theorem listPhases_of_found (h : PhaseLog s.phases.rows log) {g : Nat} {names : List String}
    (found : log[g]? = some names) : s.listPhases (some (g + 1)) = .ok names := by
  obtain ⟨g_lt, -⟩ := List.getElem?_eq_some_iff.1 found
  have pos : ¬ (g : Int) + 1 < 1 := by omega
  have within : (g : Int) + 1 ≤ (UInt32.ofNat log.length).toNat := by
    rw [h.toNat_ofNat_length]
    omega
  have number : ((g : Int) + 1).toNat = g + 1 := by omega
  rw [h.listPhases_eq]
  simp only [resolveGeneration, if_neg pos, if_pos within, number]
  exact congrArg Except.ok (h.phaseNames_eq found)

end PhaseLog

/-! ## A new generation -/

/-- Phases that have a generation and keys that nothing else has go in. -/
theorem exists_insertPhases {table : Table PhaseRow} {phases : List Phase}
    (generations : ∀ phase ∈ phases, phase.generation ≠ 0)
    (distinct : (phases.map Phase.ref).Nodup)
    (fresh : ∀ phase ∈ phases, ∀ row ∈ table.rows,
      ¬ (row.generation = cell32 phase.generation ∧ row.order = cell32 phase.order)) :
    ∃ next, insertPhases table phases = .ok next := by
  induction phases generalizing table with
  | nil => exact ⟨table, rfl⟩
  | cons phase rest ih =>
    rw [List.map_cons, List.nodup_cons] at distinct
    have unused : ¬ (table.rows.any fun p =>
        p.generation == cell32 phase.generation && p.order == cell32 phase.order) = true := by
      simpa using fresh phase List.mem_cons_self
    rw [insertPhases, if_neg (generations phase List.mem_cons_self), if_neg unused]
    refine ih (fun other later => generations other (List.mem_cons_of_mem _ later)) distinct.2 ?_
    intro other later row member same
    rw [Table.rows_insert] at member
    rcases List.mem_append.1 member with member | member
    · exact fresh other (List.mem_cons_of_mem _ later) row member same
    · rw [List.mem_singleton.1 member] at same
      refine distinct.1 (List.mem_map.2 ⟨other, later, ?_⟩)
      simp only [phaseRow, cell32_inj] at same
      simp only [Phase.ref, same]

namespace PhaseLog

variable {s : Store} {log : List (List String)}

/-- While the numbers last, every list of names that can be seen becomes the next generation. -/
theorem exists_insertPhases_numberPhases (h : PhaseLog s.phases.rows log) {names : List String}
    (room : log.length + 1 < 2 ^ 32) (length_le : names.length ≤ 2 ^ 32) :
    ∃ next, insertPhases s.phases (numberPhases (UInt32.ofNat log.length + 1) 0 names) =
      .ok next := by
  have rows := map_phaseRow_numberPhases room length_le
  have row_of {phase : Phase}
      (member : phase ∈ numberPhases (UInt32.ofNat log.length + 1) 0 names) :
      phaseRow phase ∈ generationRows (log.length + 1) names :=
    rows ▸ List.mem_map_of_mem member
  have generation_of {phase : Phase}
      (member : phase ∈ numberPhases (UInt32.ofNat log.length + 1) 0 names) :
      cell32 phase.generation = .int ((log.length + 1 : Nat) : Int) := by
    obtain ⟨order, name, -, same⟩ := mem_generationRows.1 (row_of member)
    exact congrArg PhaseRow.generation same
  apply exists_insertPhases
  · intro phase member zero
    have generation := generation_of member
    rw [zero] at generation
    simp only [cell32, UInt32.toNat_zero, Cell.int.injEq] at generation
    omega
  · -- The keys of the rows of a generation differ in the order of the phase.
    apply List.Nodup.of_map fun ref : PhaseRef => (cell32 ref.generation, cell32 ref.order)
    have keys : ((generationRows (log.length + 1) names).map
        fun row => (row.generation, row.order)).Nodup := by
      apply List.Nodup.of_map Prod.snd
      rw [List.map_map]
      have orders := map_order_generationRows (log.length + 1) names
      refine Eq.subst (motive := List.Nodup) orders.symm (List.nodup_range.map ?_)
      intro a b same
      simpa using same
    rw [← rows, List.map_map] at keys
    rw [List.map_map]
    exact keys
  · intro phase member row row_member same
    rw [h.rows_eq] at row_member
    obtain ⟨g, others, found, row_member⟩ := mem_logRows.1 row_member
    obtain ⟨order, name, -, rfl⟩ := mem_generationRows.1 row_member
    obtain ⟨g_lt, -⟩ := List.getElem?_eq_some_iff.1 found
    have generation := same.1
    rw [generation_of member, Cell.int.injEq] at generation
    omega

theorem createGeneration_answer (h : PhaseLog s.phases.rows log) {names : List String}
    (some_names : names ≠ []) (visible : ∀ name ∈ names, Visible name)
    (room : log.length + 1 < 2 ^ 32) (length_le : names.length ≤ 2 ^ 32) :
    (s.createGeneration names).answer = .ok (UInt32.ofNat (log.length + 1)) := by
  obtain ⟨next, inserted⟩ := h.exists_insertPhases_numberPhases room length_le
  have built (generation : UInt32) :
      buildGeneration generation names = .ok (numberPhases generation 0 names) :=
    buildGeneration_ok_iff.2 ⟨some_names, visible, rfl⟩
  have number : UInt32.ofNat log.length + 1 = UInt32.ofNat (log.length + 1) :=
    (UInt32.ofNat_add log.length 1).symm
  rw [createGeneration, built, h.maxGeneration]
  simp only [refusing_ok, during_ok, ok_bind, built, inserted]
  rw [← number]
  rfl

end PhaseLog

/-- A list without names, or with a blank one, is refused before the tables are looked at. -/
theorem createGeneration_of_invalid (s : Store) {names : List String}
    (broken : ¬ (names ≠ [] ∧ ∀ name ∈ names, Visible name)) :
    ∃ violation, s.createGeneration names = .fail s (.refused (.invalid violation)) := by
  have refused : ∃ violation, buildGeneration 1 names = .error (.invalid violation) := by
    unfold buildGeneration
    by_cases nothing : names = []
    · exact ⟨_, if_pos nothing⟩
    · rw [if_neg nothing]
      cases found : names.findIdx? blank with
      | some position => exact ⟨_, rfl⟩
      | none =>
        have built : buildGeneration 1 names = .ok (numberPhases 1 0 names) := by
          rw [buildGeneration, if_neg nothing, found]
        obtain ⟨some_names, visible, -⟩ := buildGeneration_ok_iff.1 built
        exact absurd ⟨some_names, visible⟩ broken
  obtain ⟨violation, refused⟩ := refused
  refine ⟨violation, ?_⟩
  rw [createGeneration, refused]
  rfl

/-! ## Histories -/

/-- The lists of names that an action makes generations of: the one that it is given, if it creates
a generation and that goes through. Provisioning asks for one only while there is none. -/
def Action.generations (s : Store) : Action → List (List String)
  | .call (.createGeneration names) =>
    if (s.createGeneration names).answer.isOk then [names] else []
  | .call _ => []
  | .provision seed =>
    if seed.phases ≠ [] ∧ s.currentGeneration = .ok 0 ∧
      (s.createGeneration seed.phases).answer.isOk then [seed.phases] else []

/-- The lists of names that a history made generations of, in order. -/
def generationsOf : Store → List (Moment × Action) → List (List String)
  | _, [] => []
  | s, (m, action) :: rest => action.generations s ++ generationsOf (action.perform m s) rest

theorem generationsOf_append (s : Store) (first rest : List (Moment × Action)) :
    generationsOf s (first ++ rest) =
      generationsOf s first ++ generationsOf (s.after first) rest := by
  induction first generalizing s with
  | nil => rfl
  | cons step others ih =>
    obtain ⟨m, action⟩ := step
    simp only [List.cons_append, generationsOf, Store.after, ih, List.append_assoc]

/-- Only the creation of a generation touches the phases. -/
theorem Effect.phases_eq {m : Moment} {s : Store} {operation : Operation}
    {o : Outcome operation.Result} (done : Effect m s operation o)
    (other : ∀ names, operation ≠ .createGeneration names) : o.store.phases = s.phases := by
  cases done with
  | createGeneration => exact absurd rfl (other _)
  | _ => rfl

namespace PhaseLog

variable {s : Store} {log : List (List String)}

/-- A generation that goes in is added at the end of the log, and one that does not leaves it. -/
theorem createGeneration (h : PhaseLog s.phases.rows log) (names : List String) :
    PhaseLog (s.createGeneration names).store.phases.rows
      (log ++ if (s.createGeneration names).answer.isOk then [names] else []) := by
  have done := createGeneration_effect ⟨Instant.epoch, fun _ => default⟩ s names
  generalize s.createGeneration names = o at done
  cases done with
  | read reads => cases reads
  | failed fault => simpa [Outcome.fail, Except.isOk, Except.toBool] using h
  | createGeneration some_names visible highest inserted =>
    rw [h.maxGeneration] at highest
    cases highest
    exact (h.append some_names visible inserted).2

/-- An action adds to the log what it makes generations of. -/
theorem action (h : PhaseLog s.phases.rows log) (m : Moment) (action : Action) :
    PhaseLog (action.perform m s).phases.rows (log ++ action.generations s) := by
  cases action with
  | call operation =>
    by_cases creates : ∃ names, operation = .createGeneration names
    · obtain ⟨names, rfl⟩ := creates
      exact h.createGeneration names
    · have other : ∀ names, operation ≠ .createGeneration names :=
        fun names same => creates ⟨names, same⟩
      have nothing : (Action.call operation).generations s = [] := by
        cases operation with
        | createGeneration names => exact absurd rfl (other names)
        | _ => rfl
      rw [nothing, List.append_nil, Action.perform, (perform_effect m s operation).phases_eq other]
      exact h
  | provision seed =>
    obtain ⟨types, severities, left⟩ := Provision.run_store m.draw s seed
    rw [Action.perform, left, Provision.providePhases_store]
    by_cases asked : seed.phases ≠ [] ∧ s.currentGeneration = .ok 0
    · have created : (Action.provision seed).generations s =
          if (s.createGeneration seed.phases).answer.isOk then [seed.phases] else [] := by
        simp only [Action.generations, ne_eq, asked.1, not_false_eq_true, asked.2, true_and]
      rw [if_pos asked, created]
      exact h.createGeneration seed.phases
    · have nothing : (Action.provision seed).generations s = [] :=
        if_neg fun all => asked ⟨all.1, all.2.1⟩
      rw [if_neg asked, nothing, List.append_nil]
      exact h

/-- Along a history the log grows by what the actions make generations of. -/
theorem after (h : PhaseLog s.phases.rows log) (actions : List (Moment × Action)) :
    PhaseLog (s.after actions).phases.rows (log ++ generationsOf s actions) := by
  induction actions generalizing s log with
  | nil =>
    rw [generationsOf, List.append_nil]
    exact h
  | cons step rest ih =>
    obtain ⟨m, action⟩ := step
    rw [generationsOf, ← List.append_assoc]
    exact ih (h.action m action)

end PhaseLog

/-! ## Phases of incidents -/

/-- The phase that the row of an incident names, as it is kept. -/
def IncidentRow.phase (row : IncidentRow) : Cell × Cell := (row.generation, row.order)

/-- Under an identifier there is one row, so the row that is there is the one that is found. -/
theorem Consistent.findIncident_of_mem {s : Store} (h : s.Consistent) {id : Uuid}
    {row : IncidentRow} (member : row ∈ s.incidents.rows) (key : row.id = some id.text) :
    s.findIncident id = some row := by
  rw [findIncident, ← key]
  exact find?_eq_of_nodup h.incidentKeys.distinct member

theorem IncidentRow.phase_revise (row : IncidentRow) {input : NewIncident}
    (nothing : input.phase = none) : (row.revise input).phase = row.phase := by
  rw [IncidentRow.phase, IncidentRow.revise, nothing]
  rfl

/-- The phase that an incident names stays the same, unless an update names another. -/
theorem Effect.phase_eq {m : Moment} {s : Store} (h : s.Consistent) {operation : Operation}
    {o : Outcome operation.Result} (done : Effect m s operation o) {id : Uuid}
    {row next : IncidentRow} (before : s.findIncident id = some row)
    (after : o.store.findIncident id = some next) :
    next.phase = row.phase ∨
      ∃ input phase, operation = .updateIncident id input ∧ input.phase = some phase := by
  obtain ⟨member, key⟩ := mem_of_findIncident before
  have found_row {there : IncidentRow} (there_member : there ∈ o.store.incidents.rows)
      (there_key : there.id = some id.text) : next = there := by
    rw [(h.effect done).findIncident_of_mem there_member there_key, Option.some_inj] at after
    exact after.symm
  have kept (still : row ∈ o.store.incidents.rows) : next.phase = row.phase :=
    congrArg IncidentRow.phase (found_row still key)
  cases done with
  | createIncident =>
    refine Or.inl (kept ?_)
    rw [Table.rows_insert]
    exact List.mem_append_left _ member
  | @updateIncident target input old columns accepted admitted found =>
    have changed : (if row.id = some target.text then old.revise input else row) ∈
        (s.incidents.map fun i =>
          if i.id = some target.text then old.revise input else i).rows := by
      rw [Table.rows_map]
      exact List.mem_map.2 ⟨row, member, rfl⟩
    by_cases hit : row.id = some target.text
    · have same : target = id := Uuid.text_injective (Option.some.inj (hit.symm.trans key))
      subst same
      rw [before, Option.some_inj] at found
      subst found
      rw [if_pos hit] at changed
      cases given : input.phase with
      | some phase => exact Or.inr ⟨input, phase, rfl, given⟩
      | none =>
        rw [found_row changed key, row.phase_revise given]
        exact Or.inl rfl
    · rw [if_neg hit] at changed
      exact Or.inl (kept changed)
  | deleteIncident =>
    obtain ⟨next_member, next_key⟩ := mem_of_findIncident after
    rw [mem_filter_rows] at next_member
    have read := h.findIncident_of_mem next_member.1 next_key
    rw [before, Option.some_inj] at read
    exact Or.inl (congrArg IncidentRow.phase read.symm)
  | _ => exact Or.inl (kept member)

/-- No action but an update that names a phase changes the one that an incident names. -/
theorem Action.phase_eq {m : Moment} {s : Store} (h : s.Consistent) {action : Action} {id : Uuid}
    {row next : IncidentRow} (before : s.findIncident id = some row)
    (after : (action.perform m s).findIncident id = some next) :
    next.phase = row.phase ∨
      ∃ input phase, action = .call (.updateIncident id input) ∧ input.phase = some phase := by
  cases action with
  | call operation =>
    rcases (perform_effect m s operation).phase_eq h before after with same | named
    · exact Or.inl same
    · obtain ⟨input, phase, rfl, given⟩ := named
      exact Or.inr ⟨input, phase, rfl, given⟩
  | provision seed =>
    obtain ⟨types, severities, left⟩ := Provision.run_store m.draw s seed
    obtain ⟨phases, first⟩ := Provision.exists_providePhases_store s seed.phases
    have incidents : ((Action.provision seed).perform m s).incidents = s.incidents := by
      rw [Action.perform, left, first]
    rw [findIncident, incidents] at after
    have same : row = next := Option.some.inj (before.symm.trans after)
    exact Or.inl (congrArg IncidentRow.phase same.symm)

/-! ## The log of a history -/

/-- What a store answers about its phases is read off a log: the number of generations is its
length, the current one is its last entry, and every generation is listed as it was given. A number
that no generation has is refused, one below the first as a bad argument. -/
structure ShowsLog (s : Store) (log : List (List String)) : Prop where
  length_lt : log.length < 2 ^ 32
  current : s.currentGeneration = .ok (UInt32.ofNat log.length)
  latest : s.listPhases none = log.getLast?.elim (.error (.refused (.generationNotFound 0))) .ok
  below : ∀ g : Int, g < 1 →
    s.listPhases (some g) = .error (.refused (.invalid (.generationBelowOne g)))
  beyond : ∀ g : Int, log.length < g →
    ∃ n, s.listPhases (some g) = .error (.refused (.generationNotFound n))
  listed : ∀ (g : Nat) (names : List String), log[g]? = some names →
    s.listPhases (some (g + 1)) = .ok names

theorem PhaseLog.showsLog {s : Store} {log : List (List String)}
    (h : PhaseLog s.phases.rows log) : s.ShowsLog log where
  length_lt := h.length_lt
  current := h.currentGeneration_eq
  latest := h.listPhases_none
  below := fun _ => h.listPhases_of_lt
  beyond := fun _ => h.listPhases_of_gt
  listed := fun _ _ => h.listPhases_of_found

/-- After any history of calls and provisionings the phases are those of the log of its generations.
A list of visible names is added to it and gets the next number, while numbers of 32 bits last; any
other list is refused as a bad argument and changes nothing. The phase that an incident names is
changed by no action but an update of it that names a phase. -/
theorem generations_append_only (actions : List (Moment × Action)) :
    (empty.after actions).ShowsLog (generationsOf empty actions) ∧
      (∀ names : List String, names ≠ [] → (∀ name ∈ names, Visible name) →
        (generationsOf empty actions).length < 2 ^ 32 - 1 → names.length < 2 ^ 32 →
        ((empty.after actions).createGeneration names).answer =
          .ok (UInt32.ofNat ((generationsOf empty actions).length + 1)) ∧
        ∀ m : Moment, generationsOf empty (actions ++ [(m, .call (.createGeneration names))]) =
          generationsOf empty actions ++ [names]) ∧
      (∀ names : List String, (names = [] ∨ ∃ name ∈ names, ¬ Visible name) →
        (∃ violation, (empty.after actions).createGeneration names =
          .fail (empty.after actions) (.refused (.invalid violation))) ∧
        ∀ m : Moment, generationsOf empty (actions ++ [(m, .call (.createGeneration names))]) =
          generationsOf empty actions) ∧
      ∀ (m : Moment) (action : Action) (id : Uuid) (row next : IncidentRow),
        (empty.after actions).findIncident id = some row →
        (action.perform m (empty.after actions)).findIncident id = some next →
        next.phase ≠ row.phase →
        ∃ input phase, action = .call (.updateIncident id input) ∧ input.phase = some phase := by
  have logged : PhaseLog (empty.after actions).phases.rows (generationsOf empty actions) :=
    PhaseLog.nil.after (s := empty) actions
  have extended (m : Moment) (names : List String) :
      generationsOf empty (actions ++ [(m, .call (.createGeneration names))]) =
        generationsOf empty actions ++
          if ((empty.after actions).createGeneration names).answer.isOk then [names] else [] := by
    rw [generationsOf_append]
    simp only [generationsOf, Action.generations, List.append_nil]
  refine ⟨logged.showsLog, ?_, ?_, ?_⟩
  · intro names some_names visible room length_lt
    have answer := logged.createGeneration_answer some_names visible (by omega) (by omega)
    refine ⟨answer, fun m => ?_⟩
    rw [extended, answer]
    rfl
  · intro names broken
    have refused : ¬ (names ≠ [] ∧ ∀ name ∈ names, Visible name) := by
      rintro ⟨some_names, visible⟩
      rcases broken with nothing | ⟨name, member, hidden⟩
      · exact some_names nothing
      · exact hidden (visible name member)
    obtain ⟨violation, failed⟩ := createGeneration_of_invalid (empty.after actions) refused
    refine ⟨⟨violation, failed⟩, fun m => ?_⟩
    rw [extended, failed]
    exact List.append_nil _
  · intro m action id row next before after changed
    obtain ⟨steps, same⟩ := exists_run_of_actions empty actions
    have consistent : (empty.after actions).Consistent := same ▸ consistent_run .empty steps
    rcases action.phase_eq consistent before after with kept | named
    · exact absurd kept changed
    · exact named

/-- A provisioned generation, and one that was created after it. -/
def reopened : List (Moment × Action) :=
  [(momentOf 0, .provision ⟨["Open", "Closed"], [], []⟩),
    (momentOf 0, .call (.createGeneration ["Todo", "Done"]))]

/-- The provisioned generation is still there after the second, and the next one is the third. -/
theorem generations_append_only_reopened :
    (∀ name ∈ ["New"], Visible name) ∧ (generationsOf empty reopened).length < 2 ^ 32 - 1 ∧
      (empty.after reopened).listPhases (some 1) = .ok ["Open", "Closed"] ∧
      ((empty.after reopened).createGeneration ["New"]).answer = .ok 3 := by
  have log : generationsOf empty reopened = [["Open", "Closed"], ["Todo", "Done"]] := by decide
  have visible : ∀ name ∈ ["New"], Visible name := by
    intro name member
    rw [List.mem_singleton.1 member, visible_iff]
    decide
  have room : (generationsOf empty reopened).length < 2 ^ 32 - 1 := by
    rw [log]
    decide
  obtain ⟨shown, created, -, -⟩ := generations_append_only reopened
  have answer := (created ["New"] (by simp) visible room (by decide)).1
  rw [log] at answer
  exact ⟨visible, room, shown.listed 0 ["Open", "Closed"] (by rw [log]; rfl), answer⟩

end StatusPage.Store
