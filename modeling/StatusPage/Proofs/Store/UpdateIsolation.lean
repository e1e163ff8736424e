import Mathlib
import StatusPage.Proofs.Store.Effect
import StatusPage.Proofs.Store.Rows

/-!
# Update logs that do not interfere

Only the calls on updates look at the table of updates, and each of them looks at the log of one
incident. So a store with another table of updates, and the same log of one incident in it, cannot
be told apart by callers who ask for no other log: `Alike.perform` says so for one operation, and
`Alike.perform_other` that an operation on another log leaves a store alike. A run without the
operations on other logs is therefore answered as they are in the whole run.
-/

namespace StatusPage.Store

open Text

/-! ## Logs -/

/-- The incident whose log of updates an operation is about, if it is about one. -/
def Operation.log? : Operation → Option Uuid
  | .nextUpdateOrder id | .createUpdate id _ | .getUpdate id _ | .listUpdates id
  | .updateUpdate id _ _ | .deleteUpdate id _ => some id
  | _ => none

/-- Whether an operation is about no log of updates but that of an incident. -/
def Operation.keepsTo (id : Uuid) (operation : Operation) : Bool :=
  operation.log?.all fun log => log = id

/-- The store with another table of updates. -/
def withUpdates (s : Store) (updates : Table UpdateRow) : Store := { s with updates := updates }

/-- An outcome in a store with another table of updates. -/
def Outcome.withUpdates {α : Type} (o : Outcome α) (updates : Table UpdateRow) : Outcome α :=
  ⟨o.answer, o.store.withUpdates updates⟩

/-- The stores have the same in all tables, but of updates only the log of one incident. -/
def Alike (id : Uuid) (s t : Store) : Prop :=
  ∃ updates, t = s.withUpdates updates ∧ t.updatesOf id = s.updatesOf id

/-! ## Operations that do not look at updates -/

section

variable {s : Store} {u : Table UpdateRow}

/-- Steps whose results differ by maps have results that differ by a map. -/
theorem bind_map {ε α β γ δ : Type} {x : Except ε α} {y : Except ε β} {h : α → β}
    {f : α → Except ε γ} {k : β → Except ε δ} {g : γ → δ} (first : y = x.map h)
    (later : ∀ a, k (h a) = (f a).map g) : (y >>= k) = (x >>= f).map g := by
  rw [first]
  cases x with
  | error e => rfl
  | ok a => exact later a

theorem bind_same {ε α γ δ : Type} {x : Except ε α} {f : α → Except ε γ} {k : α → Except ε δ}
    {g : γ → δ} (later : ∀ a, k a = (f a).map g) : (x >>= k) = (x >>= f).map g := by
  cases x with
  | error e => rfl
  | ok a => exact later a

theorem during_map {α β : Type} {operation key : String} {x : Except Cause α}
    {y : Except Cause β} {h : α → β} (same : y = x.map h) :
    during operation key y = (during operation key x).map h := by
  rw [same]
  cases x <;> rfl

theorem Outcome.ofWrite_withUpdates {α β : Type} {written other : Except Fault (β × Store)}
    (same : other = written.map fun p => (p.1, p.2.withUpdates u))
    (answer : β → Except Fault α) :
    ofWrite (s.withUpdates u) other answer = (ofWrite s written answer).withUpdates u := by
  rw [same]
  cases written <;> rfl

theorem createComponent_withUpdates (id : Uuid) (input : NewComponent) :
    (s.withUpdates u).createComponent id input = (s.createComponent id input).withUpdates u := by
  unfold createComponent
  have known : (s.withUpdates u).hasComponent id = s.hasComponent id := rfl
  rw [known]
  split
  · rfl
  · split <;> rfl

theorem updateComponent_withUpdates (id : Uuid) (input : NewComponent) :
    (s.withUpdates u).updateComponent id input = (s.updateComponent id input).withUpdates u := by
  unfold updateComponent
  have known : (s.withUpdates u).hasComponent id = s.hasComponent id := rfl
  rw [known]
  split
  · rfl
  · split <;> rfl

theorem deleteComponent_withUpdates (id : Uuid) :
    (s.withUpdates u).deleteComponent id = (s.deleteComponent id).withUpdates u := by
  unfold deleteComponent
  have known : (s.withUpdates u).hasComponent id = s.hasComponent id := rfl
  have impacts : (s.withUpdates u).impacts = s.impacts := rfl
  rw [known, impacts]
  split
  · split <;> rfl
  · rfl

theorem createImpactType_withUpdates (id : Uuid) (input : NewImpactType) :
    (s.withUpdates u).createImpactType id input =
      (s.createImpactType id input).withUpdates u := by
  unfold createImpactType
  have known : (s.withUpdates u).hasImpactType id = s.hasImpactType id := rfl
  rw [known]
  split
  · rfl
  · split <;> rfl

theorem updateImpactType_withUpdates (id : Uuid) (input : NewImpactType) :
    (s.withUpdates u).updateImpactType id input =
      (s.updateImpactType id input).withUpdates u := by
  unfold updateImpactType
  have known : (s.withUpdates u).hasImpactType id = s.hasImpactType id := rfl
  rw [known]
  split
  · rfl
  · split <;> rfl

theorem deleteImpactType_withUpdates (id : Uuid) :
    (s.withUpdates u).deleteImpactType id = (s.deleteImpactType id).withUpdates u := by
  unfold deleteImpactType
  have known : (s.withUpdates u).hasImpactType id = s.hasImpactType id := rfl
  have impacts : (s.withUpdates u).impacts = s.impacts := rfl
  rw [known, impacts]
  split
  · split <;> rfl
  · rfl

theorem createSeverity_withUpdates (input : Severity) :
    (s.withUpdates u).createSeverity input = (s.createSeverity input).withUpdates u := by
  unfold createSeverity
  have severities : (s.withUpdates u).severities = s.severities := rfl
  rw [severities]
  split
  · rfl
  · split <;> rfl

theorem updateSeverity_withUpdates (name : String) (input : Severity) :
    (s.withUpdates u).updateSeverity name input = (s.updateSeverity name input).withUpdates u := by
  unfold updateSeverity
  have severities : (s.withUpdates u).severities = s.severities := rfl
  rw [severities]
  split
  · rfl
  · split
    · dsimp only
      split <;> rfl
    · rfl

theorem deleteSeverity_withUpdates (name : String) :
    (s.withUpdates u).deleteSeverity name = (s.deleteSeverity name).withUpdates u := by
  unfold deleteSeverity
  have severities : (s.withUpdates u).severities = s.severities := rfl
  rw [severities]
  split <;> rfl

theorem createGeneration_withUpdates (names : List String) :
    (s.withUpdates u).createGeneration names = (s.createGeneration names).withUpdates u := by
  refine Outcome.ofWrite_withUpdates ?_ _
  refine bind_same fun _ => bind_same fun _ => bind_same fun _ => bind_same fun _ => ?_
  rfl

theorem checkReferences_withUpdates (input : NewIncident) :
    (s.withUpdates u).checkReferences input = s.checkReferences input := by
  have impacts (impacts : List Impact) :
      (s.withUpdates u).checkImpacts impacts = s.checkImpacts impacts := by
    induction impacts with
    | nil => rfl
    | cons impact rest ih =>
      rw [checkImpacts, ih]
      rfl
  simp only [checkReferences, impacts]
  rfl

theorem replaceImpacts_withUpdates (id : Uuid) (impacts : List Impact) :
    (s.withUpdates u).replaceImpacts id impacts =
      (s.replaceImpacts id impacts).map (withUpdates · u) := by
  have blocked : (s.withUpdates u).impactsBlocked = s.impactsBlocked := rfl
  have table : (s.withUpdates u).impacts = s.impacts := rfl
  rw [replaceImpacts, replaceImpacts, blocked, table]
  cases insertImpacts s.impactsBlocked id (s.impacts.filter fun m => m.incident ≠ id.text)
    impacts <;> rfl

theorem insertIncident_withUpdates (row : IncidentRow) :
    (s.withUpdates u).insertIncident row = (s.insertIncident row).map (withUpdates · u) := by
  have incidents : (s.withUpdates u).incidents = s.incidents := rfl
  have phases : (s.withUpdates u).phases = s.phases := rfl
  rw [insertIncident, insertIncident, incidents, phases]
  split
  · rfl
  · split
    · rfl
    · split <;> rfl

theorem reviseIncident_withUpdates (id : Uuid) (row : IncidentRow) :
    (s.withUpdates u).reviseIncident id row =
      (s.reviseIncident id row).map (withUpdates · u) := by
  have incidents : (s.withUpdates u).incidents = s.incidents := rfl
  have phases : (s.withUpdates u).phases = s.phases := rfl
  rw [reviseIncident, reviseIncident, incidents, phases]
  split
  · rfl
  · split <;> rfl

theorem createIncident_withUpdates (id : Uuid) (input : NewIncident) :
    (s.withUpdates u).createIncident id input = (s.createIncident id input).withUpdates u := by
  refine Outcome.ofWrite_withUpdates ?_ _
  rw [checkReferences_withUpdates]
  refine bind_same fun _ => bind_same fun _ => bind_same fun _ => ?_
  refine bind_map (during_map (insertIncident_withUpdates _)) fun _ => ?_
  refine bind_map (during_map (replaceImpacts_withUpdates _ _)) fun _ => ?_
  exact bind_same fun _ => rfl

theorem updateIncident_withUpdates (id : Uuid) (input : NewIncident) :
    (s.withUpdates u).updateIncident id input = (s.updateIncident id input).withUpdates u := by
  refine Outcome.ofWrite_withUpdates ?_ _
  have found : (s.withUpdates u).findIncident id = s.findIncident id := rfl
  rw [checkReferences_withUpdates, found]
  refine bind_same fun _ => ?_
  split
  · rfl
  · refine bind_same fun _ => ?_
    refine bind_map (during_map (reviseIncident_withUpdates _ _)) fun _ => ?_
    refine bind_map (during_map (replaceImpacts_withUpdates _ _)) fun _ => ?_
    exact bind_same fun _ => rfl

/-- An operation that is about no log, and deletes none with its incident, neither looks at updates
nor changes them. -/
theorem perform_withUpdates (m : Moment) {operation : Operation} (no_log : operation.log? = none)
    (kept : ∀ id, operation ≠ .deleteIncident id) :
    operation.perform m (s.withUpdates u) = (operation.perform m s).withUpdates u := by
  cases operation with
  | createComponent input => exact createComponent_withUpdates m.id input
  | updateComponent id input => exact updateComponent_withUpdates id input
  | deleteComponent id => exact deleteComponent_withUpdates id
  | createImpactType input => exact createImpactType_withUpdates m.id input
  | updateImpactType id input => exact updateImpactType_withUpdates id input
  | deleteImpactType id => exact deleteImpactType_withUpdates id
  | createSeverity input => exact createSeverity_withUpdates input
  | updateSeverity name input => exact updateSeverity_withUpdates name input
  | deleteSeverity name => exact deleteSeverity_withUpdates name
  | createGeneration names => exact createGeneration_withUpdates names
  | createIncident input => exact createIncident_withUpdates m.id input
  | updateIncident id input => exact updateIncident_withUpdates id input
  | deleteIncident id => exact absurd rfl (kept id)
  | nextUpdateOrder id => cases no_log
  | createUpdate id input => cases no_log
  | getUpdate id order => cases no_log
  | listUpdates id => cases no_log
  | updateUpdate id order input => cases no_log
  | deleteUpdate id order => cases no_log
  | _ => rfl

end

/-! ## The log of one incident -/

section

variable {s t : Store} {id other : Uuid}

theorem find?_isAt (s : Store) (id : Uuid) (order : UInt32) :
    (s.updates.rows.find? fun u => u.isAt id order) =
      (s.updatesOf id).find? fun u => u.isAt id order := by
  rw [updatesOf, List.find?_filter]
  refine congrArg (s.updates.rows.find? ·) (funext fun u => ?_)
  rw [Bool.eq_iff_iff]
  simp [UpdateRow.isAt]

theorem any_isAt (s : Store) (id : Uuid) (order : UInt32) :
    (s.updates.rows.any fun u => u.isAt id order) =
      (s.updatesOf id).any fun u => u.isAt id order := by
  rw [← List.isSome_find?, find?_isAt, List.isSome_find?]

/-- The log of an incident after a row is added to it. -/
theorem filter_insert_self {table : Table UpdateRow} {row : UpdateRow}
    (own : row.incident = id.text) :
    ((table.insert row).rows.filter fun u => u.incident == id.text) =
      (table.rows.filter fun u => u.incident == id.text) ++ [row] := by
  rw [Table.rows_insert, List.filter_append]
  simp [own]

/-- Changes in place that leave the incident alone are changes of its log. -/
theorem filter_map_self {table : Table UpdateRow} {f : UpdateRow → UpdateRow}
    (kept : ∀ u, (f u).incident = u.incident) :
    ((table.map f).rows.filter fun u => u.incident == id.text) =
      (table.rows.filter fun u => u.incident == id.text).map f := by
  rw [Table.rows_map, List.filter_map]
  simp only [Function.comp_def, kept]

theorem filter_filter_self {table : Table UpdateRow} (keep : UpdateRow → Bool) :
    ((table.filter keep).rows.filter fun u => u.incident == id.text) =
      (table.rows.filter fun u => u.incident == id.text).filter keep := by
  rw [Table.rows_filter, List.filter_comm]

/-- A change in place of the update of an incident leaves the incident alone. -/
theorem incident_of_replace (row : UpdateRow) {order : UInt32} (own : row.incident = id.text)
    (u : UpdateRow) : (if u.isAt id order then row else u).incident = u.incident := by
  split
  · next hit =>
    simp only [UpdateRow.isAt, Bool.and_eq_true, beq_iff_eq] at hit
    rw [own, hit.1]
  · rfl

/-! ## Stores that are alike -/

theorem Alike.refl (id : Uuid) (s : Store) : Alike id s s := ⟨s.updates, rfl, rfl⟩

/-- A write that does the same to the log of the incident leaves the stores alike. -/
theorem Alike.write (alike : Alike id s t) {f : Table UpdateRow → Table UpdateRow}
    {g : List UpdateRow → List UpdateRow}
    (own : ∀ table : Table UpdateRow, ((f table).rows.filter fun u => u.incident == id.text) =
      g (table.rows.filter fun u => u.incident == id.text)) :
    Alike id (s.withUpdates (f s.updates)) (t.withUpdates (f t.updates)) := by
  obtain ⟨u, rfl, log⟩ := alike
  refine ⟨f u, rfl, ?_⟩
  have left := own u
  have right := own s.updates
  rw [updatesOf, updatesOf] at log
  exact left.trans ((congrArg g log).trans right.symm)

/-- The outcomes of an operation that callers cannot tell apart. -/
def AlikeOutcomes {α : Type} (id : Uuid) (a b : Outcome α) : Prop :=
  b.answer = a.answer ∧ Alike id a.store b.store

theorem Alike.fail (alike : Alike id s t) {α : Type} (fault : Fault) :
    AlikeOutcomes id (.fail s fault : Outcome α) (.fail t fault) := ⟨rfl, alike⟩

theorem Alike.ofRead (alike : Alike id s t) {α : Type} {answer other : Except Fault α}
    (same : other = answer) : AlikeOutcomes id (.ofRead s answer) (.ofRead t other) :=
  ⟨same, alike⟩

/-- What two writes have to commit: the same fault, or the same answer and stores that are alike. -/
inductive AlikeWrites {β : Type} (id : Uuid) :
    Except Fault (β × Store) → Except Fault (β × Store) → Prop
  | failed (fault : Fault) : AlikeWrites id (.error fault) (.error fault)
  | committed (b : β) {next later : Store} (alike : Alike id next later) :
    AlikeWrites id (.ok (b, next)) (.ok (b, later))

theorem AlikeWrites.bind {α β : Type} (x : Except Fault α)
    {f k : α → Except Fault (β × Store)} (rest : ∀ a, AlikeWrites id (f a) (k a)) :
    AlikeWrites id (x >>= f) (x >>= k) := by
  cases x with
  | error fault => exact .failed fault
  | ok a => exact rest a

theorem Alike.ofWrite (alike : Alike id s t) {α β : Type} {written other : Except Fault (β × Store)}
    (writes : AlikeWrites id written other) (answer : β → Except Fault α) :
    AlikeOutcomes id (.ofWrite s written answer) (.ofWrite t other answer) := by
  cases writes with
  | failed fault => exact alike.fail fault
  | committed b next => exact ⟨rfl, next⟩

namespace Alike

variable (alike : Alike id s t)

include alike

theorem hasIncident_eq (i : Uuid) : t.hasIncident i = s.hasIncident i := by
  obtain ⟨u, rfl, -⟩ := alike
  rfl

theorem log_eq : t.updatesOf id = s.updatesOf id := by
  obtain ⟨u, -, log⟩ := alike
  exact log

theorem allocateOrder_eq : t.allocateOrder id = s.allocateOrder id := by
  rw [allocateOrder, allocateOrder, alike.log_eq]

theorem nextUpdateOrder_eq : t.nextUpdateOrder id = s.nextUpdateOrder id := by
  rw [nextUpdateOrder, nextUpdateOrder, alike.hasIncident_eq, alike.allocateOrder_eq]

theorem getUpdate_eq (order : UInt32) : t.getUpdate id order = s.getUpdate id order := by
  rw [getUpdate, getUpdate, find?_isAt, find?_isAt, alike.log_eq]

theorem listUpdates_eq : t.listUpdates id = s.listUpdates id := by
  rw [listUpdates, listUpdates, alike.hasIncident_eq, alike.log_eq]

theorem createUpdate (now : Instant) (input : NewIncidentUpdate) :
    AlikeOutcomes id (s.createUpdate now id input) (t.createUpdate now id input) := by
  refine alike.ofWrite ?_ _
  rw [alike.hasIncident_eq, alike.allocateOrder_eq]
  refine .bind _ fun _ => ?_
  split
  · exact .failed _
  · refine .bind _ fun order => ?_
    dsimp only
    rw [any_isAt, any_isAt, alike.log_eq]
    split
    · exact .failed _
    · let row : UpdateRow :=
        ⟨id.text, cell32 order, input.displayName, input.description, now.storedText⟩
      have own : row.incident = id.text := rfl
      have next := alike.write (f := (·.insert row)) (g := (· ++ [row]))
        fun _ => filter_insert_self own
      exact .committed order next

theorem updateUpdate (order : UInt32) (input : NewIncidentUpdate) :
    AlikeOutcomes id (s.updateUpdate id order input) (t.updateUpdate id order input) := by
  refine alike.ofWrite ?_ _
  rw [find?_isAt, find?_isAt, alike.log_eq]
  refine .bind _ fun _ => ?_
  split
  · exact .failed _
  · next old found =>
    have own : old.incident = id.text := by
      have hit := List.find?_some found
      simp only [UpdateRow.isAt, Bool.and_eq_true, beq_iff_eq] at hit
      exact hit.1
    let row : UpdateRow :=
      { old with displayName := input.displayName, description := input.description }
    have next := alike.write (f := (·.map fun u => if u.isAt id order then row else u))
      fun _ => filter_map_self (incident_of_replace row own)
    exact .committed row next

theorem deleteUpdate (order : UInt32) :
    AlikeOutcomes id (s.deleteUpdate id order) (t.deleteUpdate id order) := by
  unfold Store.deleteUpdate
  rw [any_isAt, any_isAt, alike.log_eq]
  split
  · exact ⟨rfl, alike.write fun _ => filter_filter_self _⟩
  · exact alike.fail _

/-- The deletion of an incident takes its updates out of both stores. -/
theorem deleteIncident (i : Uuid) :
    AlikeOutcomes id (s.deleteIncident i) (t.deleteIncident i) := by
  have known := alike.hasIncident_eq i
  obtain ⟨u, rfl, log⟩ := alike
  unfold Store.deleteIncident
  rw [known]
  split
  · let next : Store := { s with
      incidents := s.incidents.filter fun r => r.id ≠ some i.text
      impacts := s.impacts.filter fun m => m.incident ≠ i.text }
    have start : Alike id next (next.withUpdates u) := ⟨u, rfl, log⟩
    exact ⟨rfl, start.write (f := (·.filter fun r => r.incident ≠ i.text))
      fun _ => filter_filter_self _⟩
  · exact ⟨rfl, u, rfl, log⟩

/-- What does not look at updates leaves the stores alike. -/
theorem of_perform_withUpdates {m : Moment} {operation : Operation}
    (blind : ∀ u, operation.perform m (s.withUpdates u) = (operation.perform m s).withUpdates u) :
    AlikeOutcomes id (operation.perform m s) (operation.perform m t) := by
  obtain ⟨u, rfl, log⟩ := alike
  -- With its own updates the store is the same, so these are kept.
  have kept : (operation.perform m s).store.updates = s.updates :=
    congrArg (fun o => o.store.updates) (blind s.updates)
  rw [blind u]
  refine ⟨rfl, u, rfl, ?_⟩
  rw [updatesOf, updatesOf, kept]
  exact log

/-- Callers who ask for no other log cannot tell the stores apart, nor can they afterwards. -/
theorem perform (m : Moment) {operation : Operation} (keeps : operation.keepsTo id = true) :
    AlikeOutcomes id (operation.perform m s) (operation.perform m t) := by
  by_cases deletion : ∃ i, operation = .deleteIncident i
  · obtain ⟨i, rfl⟩ := deletion
    exact alike.deleteIncident i
  · cases about : operation.log? with
    | none =>
      have kept (i : Uuid) : operation ≠ .deleteIncident i := fun same => deletion ⟨i, same⟩
      exact alike.of_perform_withUpdates fun u => perform_withUpdates m about kept
    | some log =>
      have own : log = id := by simpa [Operation.keepsTo, about] using keeps
      subst own
      cases operation with
      | nextUpdateOrder => cases about; exact alike.ofRead alike.nextUpdateOrder_eq
      | createUpdate i input => cases about; exact alike.createUpdate m.now input
      | getUpdate i order => cases about; exact alike.ofRead (alike.getUpdate_eq order)
      | listUpdates => cases about; exact alike.ofRead alike.listUpdates_eq
      | updateUpdate i order input => cases about; exact alike.updateUpdate order input
      | deleteUpdate i order => cases about; exact alike.deleteUpdate order
      | _ => cases about

end Alike

/-- A row of the log of an incident is no update of another one. -/
theorem not_isAt_of_log {u : UpdateRow} {order : UInt32} (ne : other ≠ id)
    (member : u ∈ s.updatesOf id) : u.isAt other order = false := by
  have own := (List.mem_filter.1 member).2
  rw [beq_iff_eq] at own
  simp [UpdateRow.isAt, own, Ne.symm ne]

/-- An operation on another log leaves a store alike. -/
theorem alike_perform_other (m : Moment) (s : Store) {operation : Operation}
    (elsewhere : operation.keepsTo id = false) : Alike id s (operation.perform m s).store := by
  have log_ne {log : Uuid} (about : operation.log? = some log) : log ≠ id := by
    simpa [Operation.keepsTo, about] using elsewhere
  have done := perform_effect m s operation
  generalize operation.perform m s = o at done
  cases done with
  | read => exact .refl id s
  | failed => exact .refl id s
  | createUpdate =>
    refine ⟨_, rfl, ?_⟩
    rw [updatesOf, Table.rows_insert, List.filter_append, updatesOf]
    simp [IncidentUpdate.row, log_ne rfl]
  | @updateUpdate log order input old name found =>
    have own : old.incident = log.text := by
      have hit := List.find?_some found
      simp only [UpdateRow.isAt, Bool.and_eq_true, beq_iff_eq] at hit
      exact hit.1
    let row : UpdateRow :=
      { old with displayName := input.displayName, description := input.description }
    refine ⟨s.updates.map fun u => if u.isAt log order then row else u, rfl, ?_⟩
    refine (filter_map_self (incident_of_replace row own)).trans ?_
    refine (List.map_congr_left fun u member => ?_).trans (List.map_id _)
    rw [not_isAt_of_log (log_ne rfl) member]
    rfl
  | @deleteUpdate log order =>
    refine ⟨s.updates.filter fun u => !u.isAt log order, rfl, ?_⟩
    refine (filter_filter_self fun u => !u.isAt log order).trans ?_
    refine List.filter_eq_self.2 fun u member => ?_
    rw [not_isAt_of_log (log_ne rfl) member]
    rfl
  | _ => cases elsewhere

end

/-! ## Runs -/

/-- Every operation of a run with its answer. -/
def answers (s : Store) :
    List (Moment × Operation) → List ((operation : Operation) × Except Fault operation.Result)
  | [] => []
  | (m, operation) :: rest =>
    ⟨operation, (operation.perform m s).answer⟩ :: answers (operation.perform m s).store rest

theorem Alike.trans {id : Uuid} {r s t : Store} (first : Alike id r s) (second : Alike id s t) :
    Alike id r t := by
  obtain ⟨u, rfl, log⟩ := first
  obtain ⟨v, rfl, later⟩ := second
  exact ⟨v, rfl, later.trans log⟩

theorem Alike.symm {id : Uuid} {s t : Store} (alike : Alike id s t) : Alike id t s := by
  obtain ⟨u, rfl, log⟩ := alike
  exact ⟨s.updates, rfl, log.symm⟩

/-- Without the operations on other logs a run on a store that is alike is answered the same, and
its end is alike. -/
theorem Alike.run {id : Uuid} {s t : Store} (alike : Alike id s t)
    (operations : List (Moment × Operation)) :
    answers t (operations.filter fun step => step.2.keepsTo id) =
        (answers s operations).filter (fun answer => answer.1.keepsTo id) ∧
      Alike id (s.run operations) (t.run (operations.filter fun step => step.2.keepsTo id)) := by
  induction operations generalizing s t with
  | nil => exact ⟨rfl, alike⟩
  | cons step rest ih =>
    obtain ⟨m, operation⟩ := step
    cases keeps : operation.keepsTo id with
    | true =>
      obtain ⟨answer, next⟩ := alike.perform m keeps
      obtain ⟨later, finish⟩ := ih next
      rw [List.filter_cons_of_pos (by exact keeps)]
      refine ⟨?_, finish⟩
      rw [answers, answers, List.filter_cons_of_pos (by exact keeps), later, answer]
    | false =>
      have next := (alike_perform_other m s keeps).symm.trans alike
      rw [List.filter_cons_of_neg (by simp [keeps]), answers,
        List.filter_cons_of_neg (by simp [keeps])]
      exact ih next

/-- Operations on the logs of other incidents change no answer: a run from which they are left out
answers the remaining operations, which are those on the log of the incident and all that are about
no log of updates, as the whole run does. What is left in the tables is the same as well, but for
the logs of other incidents. -/
theorem update_logs_isolated (s : Store) (id : Uuid) (operations : List (Moment × Operation)) :
    answers s (operations.filter fun step => step.2.keepsTo id) =
        (answers s operations).filter (fun answer => answer.1.keepsTo id) ∧
      Alike id (s.run operations) (s.run (operations.filter fun step => step.2.keepsTo id)) :=
  (Alike.refl id s).run operations

end StatusPage.Store
