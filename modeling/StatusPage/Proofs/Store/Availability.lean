import Mathlib
import StatusPage.Proofs.Store.ImpactViews
import StatusPage.Proofs.Store.LastWrite
import StatusPage.Proofs.Store.UpdateOrders

/-!
# Reads of what was written

In a consistent store no read fails for want of a readable row, with one exception: an incident
that began or ended in a year that four digits cannot show is written with a longer text, and that
text is not read back. `reads_available_iff` gives the exact condition, and `unreadable_after_write`
a run of two accepted writes after which it fails.

`Gives` says of a chain of reads that it comes to an end and what is known of the result.
-/

namespace StatusPage.Store

open Text

/-! ## Chains of reads -/

section Chains

variable {ε δ α β : Type} {p : α → Prop} {q : β → Prop}

/-- A read succeeds, with a result that has a property. -/
def Gives (x : Except ε α) (p : α → Prop) : Prop := ∃ a, x = .ok a ∧ p a

theorem Gives.ok {a : α} (h : p a) : Gives (.ok a : Except ε α) p := ⟨a, rfl, h⟩

theorem Gives.bind {x : Except ε α} {f : α → Except ε β} (h : Gives x p)
    (rest : ∀ a, p a → Gives (f a) q) : Gives (x >>= f) q := by
  obtain ⟨a, rfl, known⟩ := h
  exact rest a known

theorem Gives.mapError {x : Except ε α} (h : Gives x p) (f : ε → δ) : Gives (x.mapError f) p := by
  obtain ⟨a, rfl, known⟩ := h
  exact ⟨a, rfl, known⟩

theorem Gives.mapM {f : α → Except ε β} {l : List α} (each : ∀ a ∈ l, Gives (f a) q) :
    Gives (l.mapM f) fun bs => ∀ b ∈ bs, q b := by
  induction l with
  | nil => exact .ok (by simp)
  | cons a rest ih =>
    rw [List.mapM_cons]
    apply (each a List.mem_cons_self).bind
    intro b first
    refine (ih fun a later => each a (List.mem_cons_of_mem _ later)).bind ?_
    intro bs others
    apply Gives.ok
    intro c member
    rcases List.mem_cons.1 member with rfl | member
    · exact first
    · exact others c member

end Chains

/-! ## Faults of the store itself -/

/-- A call does not fail with a fault that makes the store of no use. -/
def Available {α : Type} (answer : Except Fault α) : Prop :=
  ∀ fault, answer = .error fault → fault.kind ≠ .storeUnavailable

theorem kind_ne_storeUnavailable (error : Error) : error.kind ≠ .storeUnavailable := by
  cases error <;> simp [Error.kind]

theorem available_ok {α : Type} (a : α) : Available (.ok a) := by
  intro fault failed
  cases failed

theorem Gives.available {α : Type} {answer : Except Fault α} {p : α → Prop}
    (h : Gives answer p) : Available answer := by
  obtain ⟨a, rfl, -⟩ := h
  exact available_ok a

/-- A refusal is not a fault of the store. -/
theorem available_refused {α : Type} (error : Error) :
    Available (.error (.refused error) : Except Fault α) := by
  intro fault failed
  cases failed
  exact kind_ne_storeUnavailable error

/-! ## Components, impact types and severities -/

/-- Nothing more is asked of the elements of a listing. -/
theorem Gives.listing {α β : Type} {f : α → Except Fault β} {l : List α}
    (each : ∀ a ∈ l, Gives (f a) fun _ => True) : Available (l.mapM f) :=
  (Gives.mapM each).available

theorem Gives.then_available {α β : Type} {p : α → Prop} {x : Except Fault α}
    {f : α → Except Fault β} (h : Gives x p) (rest : ∀ a, p a → Available (f a)) :
    Available (x >>= f) := by
  obtain ⟨a, rfl, known⟩ := h
  exact rest a known

theorem gives_readId {β : Type} {text : String} (known : ∃ id : Uuid, text = id.text)
    (f : Uuid → β) : Gives ((readId text).map f) fun _ => True := by
  obtain ⟨id, rfl⟩ := known
  rw [readId_text]
  exact .ok trivial

/-- Every row of a table with a column of keys gives the text of an identifier. -/
theorem KeyColumn.gives_keys {α : Type} {column : List (Option String)} (keys : KeyColumn column)
    {rows : List α} {key : α → Option String} (listed : ∀ a ∈ rows, key a ∈ column)
    (name : String) :
    Gives (rows.mapM fun a => (textColumn 0 name (key a)).map fun id => (a, id))
      fun found => ∀ x ∈ found, x.1 ∈ rows ∧ ∃ id : Uuid, x.2 = id.text := by
  apply Gives.mapM
  intro a member
  obtain ⟨id, same⟩ := keys.ids (key a) (listed a member)
  rw [same]
  exact .ok ⟨member, id, rfl⟩

namespace Consistent

variable {s : Store}

theorem available_listComponents (h : s.Consistent) (query : ComponentQuery) :
    Available (s.listComponents query) := by
  refine Gives.then_available (Gives.mapError (h.componentKeys.gives_keys ?_ _) _) ?_
  · intro c member
    exact List.mem_map_of_mem (List.mem_of_mem_filter (List.mem_mergeSort.1 member))
  · intro found known
    exact Gives.listing fun x member => gives_readId (known x member).2 _

/-- The names that are listed are names of rows, so each of them can be seen. -/
theorem gives_listImpactTypes (h : s.Consistent) :
    Gives s.listImpactTypes fun listed => ∀ t ∈ listed, Visible t.displayName := by
  refine Gives.bind (Gives.mapError (h.impactTypeKeys.gives_keys ?_ _) _) ?_
  · intro t member
    exact List.mem_map_of_mem (List.mem_mergeSort.1 member)
  · intro found known
    apply Gives.mapM
    rintro ⟨t, text⟩ member
    obtain ⟨listed, id, rfl⟩ := known (t, text) member
    simp only [readId_text]
    exact .ok (h.impactTypeNames t (List.mem_mergeSort.1 listed))

theorem available_listImpactTypes (h : s.Consistent) : Available s.listImpactTypes :=
  h.gives_listImpactTypes.available

/-- A severity row gives a name and a value of eight bits. -/
theorem gives_severityColumns (h : s.Consistent) {r : SeverityRow}
    (member : r ∈ s.severities.rows) :
    Gives r.columns fun columns => ∃ value : UInt8, columns.2 = value.toNat := by
  obtain ⟨severity, rfl, -⟩ := h.severityRows r member
  exact .ok ⟨severity.value, rfl⟩

theorem gives_severityOf {columns : String × Int}
    (known : ∃ value : UInt8, columns.2 = value.toNat) :
    Gives (severityOf columns) fun _ => True := by
  obtain ⟨value, same⟩ := known
  rw [severityOf, same, readSeverity_toNat]
  exact .ok trivial

theorem available_getSeverity (h : s.Consistent) (name : String) :
    Available (s.getSeverity name) := by
  rw [Store.getSeverity]
  split
  · exact available_ok none
  · next r found =>
    have columns := h.gives_severityColumns (List.mem_of_find?_eq_some found)
    apply (columns.mapError _).then_available
    intro read known
    exact (gives_severityOf known).then_available fun severity _ => available_ok (some severity)

theorem available_listSeverities (h : s.Consistent) : Available s.listSeverities := by
  have columns : Gives ((s.severities.rows.mergeSort fun a b => a.value.le b.value).mapM
      SeverityRow.columns) fun found =>
      ∀ columns ∈ found, ∃ value : UInt8, columns.2 = value.toNat :=
    Gives.mapM fun r member => h.gives_severityColumns (List.mem_mergeSort.1 member)
  apply (columns.mapError _).then_available
  intro found known
  exact Gives.listing fun columns member => gives_severityOf (known columns member)

/-! ## Phases -/

theorem gives_maxGeneration (h : s.Consistent) : Gives s.maxGeneration fun _ => True := by
  obtain ⟨log, logged⟩ := h.phaseLog
  rw [logged.maxGeneration]
  exact .ok trivial

theorem available_listPhases (h : s.Consistent) (requested : Option Int) :
    Available (s.listPhases requested) := by
  obtain ⟨current, highest, -⟩ := h.gives_maxGeneration
  rw [Store.listPhases, highest, during_ok, ok_bind]
  cases resolved : resolveGeneration requested current with
  | ok generation => exact available_ok (s.phaseNames generation)
  | error error => exact available_refused error

/-! ## Impacts -/

theorem available_affectedComponents (h : s.Consistent) (id : Uuid) (t : Option Instant) :
    Available (s.affectedComponents id t) := by
  cases known : s.hasIncident id with
  | false =>
    rw [Store.affectedComponents, known]
    exact available_refused _
  | true =>
    obtain ⟨listed, answer, -⟩ := h.mem_affectedComponents known t
    rw [answer]
    exact available_ok listed

theorem available_affectingIncidents (h : s.Consistent) (id : Uuid) (t : Option Instant) :
    Available (s.affectingIncidents id t) := by
  cases known : s.hasComponent id with
  | false =>
    rw [Store.affectingIncidents, known]
    exact available_refused _
  | true =>
    obtain ⟨listed, answer, -⟩ := h.mem_affectingIncidents known t
    rw [answer]
    exact available_ok listed

/-! ## Updates -/

theorem available_nextUpdateOrder (h : s.Consistent) (id : Uuid) :
    Available (s.nextUpdateOrder id) := by
  rw [Store.nextUpdateOrder]
  split
  · obtain ⟨order, allocated, -⟩ := h.exists_allocateOrder id
    rw [allocated]
    exact available_ok order
  · exact available_refused _

theorem available_listUpdates (h : s.Consistent) (updates : s.UpdateTimes Instant.FourDigitYear)
    (id : Uuid) : Available (s.listUpdates id) := by
  cases known : s.hasIncident id with
  | false =>
    rw [Store.listUpdates, known]
    exact available_refused _
  | true =>
    obtain ⟨listed, answer, -⟩ := exists_listUpdates h updates known
    rw [answer]
    exact available_ok listed

end Consistent

namespace UpdateTimes

variable {s : Store}

theorem available_getUpdate (updates : s.UpdateTimes Instant.FourDigitYear) (id : Uuid)
    (order : UInt32) : Available (s.getUpdate id order) := by
  rw [Store.getUpdate]
  split
  · exact available_ok none
  · next u found =>
    obtain ⟨e, rfl, -, rfl, year⟩ := updates.exists_of_find found
    rw [IncidentUpdate.update_row year]
    exact available_ok _

end UpdateTimes

/-! ## Incidents -/

namespace IncidentTimes

variable {s : Store}

theorem available_getIncident (times : s.IncidentTimes Instant.FourDigitYear) (id : Uuid) :
    Available (s.getIncident id) := by
  cases found : s.findIncident id with
  | none =>
    rw [Store.getIncident, found]
    exact available_ok none
  | some row =>
    obtain ⟨i, rfl, -, bounds⟩ := times.exists_of_findIncident found
    rw [getIncident_of_found bounds found]
    exact available_ok _

theorem available_listIncidents (times : s.IncidentTimes Instant.FourDigitYear)
    (query : IncidentQuery) : Available (s.listIncidents query) := by
  obtain ⟨is, -, -, listed⟩ := exists_listIncidents times query
  rw [listed]
  exact available_ok _

end IncidentTimes

namespace Consistent

variable {s : Store}

/-- If every incident can be read by itself, all instants have years of four digits. -/
theorem incidentTimes_of_available (h : s.Consistent)
    (readable : ∀ id, Available (s.getIncident id)) :
    s.IncidentTimes Instant.FourDigitYear := by
  intro row member
  obtain ⟨i, rfl, -⟩ := h.incidentRows row member
  refine ⟨i, rfl, ?_⟩
  by_contra outside
  refine readable i.id (.unreadableTime Instant.Flaw.invalid.message) ?_ rfl
  rw [Store.getIncident, h.findIncident_eq member]
  simp only [i.columns_row, during_ok, ok_bind, Incident.incident_columns_of_not_timesIn outside]
  rfl

theorem available_of_isRead (h : s.Consistent) (times : s.IncidentTimes Instant.FourDigitYear)
    (updates : s.UpdateTimes Instant.FourDigitYear) (m : Moment) {operation : Operation}
    (reads : operation.isRead = true) : Available (operation.perform m s).answer := by
  cases operation with
  | getComponent id => exact available_ok _
  | listComponents query => exact h.available_listComponents query
  | getImpactType id => exact available_ok _
  | listImpactTypes => exact h.available_listImpactTypes
  | getSeverity name => exact h.available_getSeverity name
  | listSeverities => exact h.available_listSeverities
  | currentGeneration => exact (h.gives_maxGeneration.mapError _).available
  | listPhases requested => exact h.available_listPhases requested
  | getIncident id => exact times.available_getIncident id
  | listIncidents query => exact times.available_listIncidents query
  | affectedComponents id t => exact h.available_affectedComponents id t
  | affectingIncidents id t => exact h.available_affectingIncidents id t
  | nextUpdateOrder id => exact h.available_nextUpdateOrder id
  | getUpdate id order => exact updates.available_getUpdate id order
  | listUpdates id => exact h.available_listUpdates updates id
  | _ => cases reads

end Consistent

/-! ## Runs -/

/-- With clocks in years of four digits, every read goes through exactly while every incident in the
store began and ended in such years. That is so if all instants that callers gave lie in them. -/
theorem reads_available_iff {operations : List (Moment × Operation)}
    (clock : ∀ step ∈ operations, step.1.now.FourDigitYear) :
    ((∀ (m : Moment) (operation : Operation), operation.isRead = true →
        Available (operation.perform m (empty.run operations)).answer) ↔
      (empty.run operations).IncidentTimes Instant.FourDigitYear) ∧
    ((∀ step ∈ operations, step.2.TimesIn Instant.FourDigitYear) →
      ∀ (m : Moment) (operation : Operation), operation.isRead = true →
        Available (operation.perform m (empty.run operations)).answer) := by
  have consistent := consistent_run .empty operations
  have updates := updateTimes_run .empty clock
  refine ⟨⟨?_, ?_⟩, ?_⟩
  · intro readable
    exact consistent.incidentTimes_of_available
      fun id => readable (momentOf 0) (.getIncident id) rfl
  · intro times m operation reads
    exact consistent.available_of_isRead times updates m reads
  · intro given m operation reads
    exact consistent.available_of_isRead (incidentTimes_run .empty given) updates m reads

/-- After the outage every read goes through. -/
theorem reads_available_in_outage :
    (∀ step ∈ outage, step.1.now.FourDigitYear) ∧
      (∀ step ∈ outage, step.2.TimesIn Instant.FourDigitYear) ∧
      Available ((empty.run outage).listIncidents ⟨true, none⟩) := by
  have clock : ∀ step ∈ outage, step.1.now.FourDigitYear := by decide
  have given : ∀ step ∈ outage, step.2.TimesIn Instant.FourDigitYear := by decide
  exact ⟨clock, given,
    (reads_available_iff clock).2 given (momentOf 0) (.listIncidents ⟨true, none⟩) rfl⟩

/-- The start of the year 10000. -/
def farFuture : Instant :=
  (Instant.ofSecond? 253402300800 0).getD Instant.epoch

/-- A generation of phases and an incident that begins in the year 10000. -/
def farOutage : List (Moment × Operation) :=
  [(momentOf 0, .createGeneration ["Open"]),
    (momentOf 3, .createIncident { outageContent with beganAt := farFuture, impacts := [] })]

/-- Clocks from 1970 to 9999 are not enough: the incident of the year 10000 is accepted and makes
every later read of it fail. -/
theorem unreadable_after_write :
    ¬ ∀ operations : List (Moment × Operation),
      (∀ step ∈ operations, 1970 ≤ step.1.now.year ∧ step.1.now.year ≤ 9999) →
      ∀ (m : Moment) (operation : Operation), operation.isRead = true →
        Available (operation.perform m (empty.run operations)).answer := by
  intro claimed
  have clock : ∀ step ∈ farOutage, 1970 ≤ step.1.now.year ∧ step.1.now.year ≤ 9999 := by decide
  have readable := claimed farOutage clock (momentOf 0) (.getIncident (Uuid.ofNat 3)) rfl
  have failed : (empty.run farOutage).getIncident (Uuid.ofNat 3) =
      .error (.unreadableTime Instant.Flaw.invalid.message) := by decide
  exact readable _ failed rfl

end StatusPage.Store
