import Mathlib
import StatusPage.Proofs.Store.Listings
import StatusPage.Proofs.Store.ReadBack

/-!
# Deletions

A component or an impact type that an impact names cannot be deleted, and an incident takes its
impacts and updates with it. `Deletes` says what a deletion answers and which rows it takes away,
for all three kinds alike: those that go with the entity (`Row.goesWith`) and no others. No row is
left that refers to what is gone, so an entity that is created under the identifier later finds
nothing of it (`createIncident_own`, `createComponent_own`).
-/

namespace StatusPage

open Text Store
open Api (Subject)

/-- An impact names the component that it is on and the impact type that it is of. -/
def Impact.Names (impact : Impact) : Subject → Prop
  | .component id => impact.component = id
  | .impactType id => impact.impactType = id
  | _ => False

namespace Store

/-! ## Rows of entities -/

/-- A row of one of the tables. -/
inductive Row where
  | component (row : ComponentRow)
  | label (row : LabelRow)
  | impactType (row : ImpactTypeRow)
  | severity (row : SeverityRow)
  | phase (row : PhaseRow)
  | incident (row : IncidentRow)
  | impact (row : ImpactRow)
  | update (row : UpdateRow)

/-- The rows of all tables, one table after the other. -/
def allRows (s : Store) : List Row :=
  s.components.rows.map .component ++ s.labels.rows.map .label ++
    s.impactTypes.rows.map .impactType ++ s.severities.rows.map .severity ++
    s.phases.rows.map .phase ++ s.incidents.rows.map .incident ++ s.impacts.rows.map .impact ++
    s.updates.rows.map .update

/-- Whether a row goes with an entity: its own row, the labels of a component, and the impacts and
updates of an incident. -/
def Row.goesWith : Subject → Row → Bool
  | .component id, .component row => row.id = some id.text
  | .component id, .label row => row.component = id.text
  | .impactType id, .impactType row => row.id = some id.text
  | .incident id, .incident row => row.id = some id.text
  | .incident id, .impact row => row.incident = id.text
  | .incident id, .update row => row.incident = id.text
  | _, _ => false

/-- What callers can ask for of an entity: the entity, and the updates of an incident. -/
inductive Part : Subject → Subject → Prop
  | self (subject : Subject) : Part subject subject
  | update (id : Uuid) (order : UInt32) : Part (.update id order) (.incident id)

/-- An incident that is there has an impact, whether or not it is active at any instant. -/
def HasImpact (s : Store) (incident : Uuid) (impact : Impact) : Prop :=
  s.hasIncident incident = true ∧ impactRow incident impact ∈ s.impacts.rows

/-- Some impact of some incident names an entity. -/
def Holds (s : Store) (subject : Subject) : Prop :=
  ∃ incident impact, s.HasImpact incident impact ∧ impact.Names subject

/-! ## Outcomes of a deletion -/

/-- A call fails for a kind of reason and leaves the store as it was. -/
def FailsAs {α : Type} (s : Store) (kind : ErrorKind) (o : Outcome α) : Prop :=
  ∃ fault : Fault, o = .fail s fault ∧ fault.kind = kind

/-- An entity was taken out of a store with the rows that go with it and with no others. -/
structure Removes (s : Store) (subject : Subject) (next : Store) : Prop where
  rows : next.allRows = s.allRows.filter fun row => !row.goesWith subject
  gone : ∀ part, Part part subject → next.read part = .ok none
  others : ∀ other, ¬ Part other subject → next.read other = s.read other

/-- What a deletion of an entity comes to: it is not found, an impact holds it, or it goes. -/
structure Deletes (s : Store) (subject : Subject) (o : Outcome Unit) : Prop where
  notFound_iff : FailsAs s .notFound o ↔ s.read subject = .ok none
  conflict_iff : FailsAs s .conflict o ↔ s.read subject ≠ .ok none ∧ s.Holds subject
  ok_iff : o.answer = .ok () ↔ s.read subject ≠ .ok none ∧ ¬ s.Holds subject
  removes : o.answer = .ok () → Removes s subject o.store

theorem failsAs_fail_iff {α : Type} {s : Store} {kind : ErrorKind} {fault : Fault} :
    FailsAs s kind (.fail s fault : Outcome α) ↔ fault.kind = kind := by
  constructor
  · intro failed
    rcases failed with ⟨other, same, other_kind⟩
    cases same
    exact other_kind
  · intro same
    exact ⟨fault, rfl, same⟩

theorem not_failsAs_ok {α : Type} {s next : Store} {kind : ErrorKind} {a : α} :
    ¬ FailsAs s kind ⟨.ok a, next⟩ := by
  intro failed
  rcases failed with ⟨fault, same, -⟩
  cases same

section Outcomes

variable {s : Store} {subject : Subject}

theorem deletes_of_missing {fault : Fault} (missing : s.read subject = .ok none)
    (kind : fault.kind = .notFound) : Deletes s subject (.fail s fault) where
  notFound_iff := failsAs_fail_iff.trans (iff_of_true kind missing)
  conflict_iff := by
    rw [failsAs_fail_iff, kind]
    exact iff_of_false nofun fun both => both.1 missing
  ok_iff := iff_of_false nofun fun both => both.1 missing
  removes := nofun

theorem deletes_of_held {fault : Fault} (there : s.read subject ≠ .ok none)
    (held : s.Holds subject) (kind : fault.kind = .conflict) :
    Deletes s subject (.fail s fault) where
  notFound_iff := by
    rw [failsAs_fail_iff, kind]
    exact iff_of_false nofun there
  conflict_iff := failsAs_fail_iff.trans (iff_of_true kind ⟨there, held⟩)
  ok_iff := iff_of_false nofun fun both => both.2 held
  removes := nofun

theorem deletes_of_free {next : Store} (there : s.read subject ≠ .ok none)
    (free : ¬ s.Holds subject) (removed : Removes s subject next) :
    Deletes s subject ⟨.ok (), next⟩ where
  notFound_iff := iff_of_false not_failsAs_ok there
  conflict_iff := iff_of_false not_failsAs_ok fun both => free both.2
  ok_iff := iff_of_true rfl ⟨there, free⟩
  removes := fun _ => removed

/-- A deletion that asks whether the entity is there and then whether an impact holds it. -/
theorem deletes_ite {known used : Bool} {missing held : Fault} {next : Store}
    (there : s.read subject = .ok none ↔ ¬ known = true) (holds : s.Holds subject ↔ used = true)
    (missing_kind : missing.kind = .notFound) (held_kind : held.kind = .conflict)
    (removed : Removes s subject next) :
    Deletes s subject (if known then if used then .fail s held else ⟨.ok (), next⟩
      else .fail s missing) := by
  split
  · next present =>
    have not_missing : s.read subject ≠ .ok none := fun nothing => there.1 nothing present
    split
    · next named => exact deletes_of_held not_missing (holds.2 named) held_kind
    · next unnamed =>
      exact deletes_of_free not_missing (fun held => unnamed (holds.1 held)) removed
  · next absent => exact deletes_of_missing (there.2 absent) missing_kind

end Outcomes

/-! ## Entities that are there -/

section There

variable {s : Store} {id : Uuid}

theorem read_component_eq_none_iff :
    s.read (.component id) = .ok none ↔ ¬ s.hasComponent id = true := by
  rw [read, getComponent, hasComponent, ← List.isSome_find?]
  cases s.components.rows.find? fun c => c.id == some id.text with
  | none => exact iff_of_true rfl Bool.false_ne_true
  | some row =>
    refine iff_of_false ?_ fun missing => missing rfl
    intro missing
    cases missing

theorem read_impactType_eq_none_iff :
    s.read (.impactType id) = .ok none ↔ ¬ s.hasImpactType id = true := by
  rw [read, getImpactType, hasImpactType, ← List.isSome_find?]
  cases s.impactTypes.rows.find? fun t => t.id == some id.text with
  | none => exact iff_of_true rfl Bool.false_ne_true
  | some row =>
    refine iff_of_false ?_ fun missing => missing rfl
    intro missing
    cases missing

/-- An incident that is there can fail to be read, but is not read as missing. -/
theorem read_incident_eq_none_iff :
    s.read (.incident id) = .ok none ↔ ¬ s.hasIncident id = true := by
  rw [← findIncident_isSome, read, getIncident]
  cases s.findIncident id with
  | none => exact iff_of_true rfl Bool.false_ne_true
  | some row =>
    refine iff_of_false ?_ fun missing => missing rfl
    intro missing
    obtain ⟨i?, answer, nothing⟩ := map_ok_iff.1 missing
    obtain ⟨columns, -, answer⟩ := bind_ok_iff.1 answer
    obtain ⟨i, -, same⟩ := bind_ok_iff.1 answer
    cases same
    cases nothing

end There

/-! ## Rows that are looked for after a deletion -/

section Find

variable {α κ : Type} [DecidableEq κ] {key : α → κ} {k : κ} {rows : List α}

/-- What is looked for under another key is found as before. -/
theorem find?_filter_of_ne {p : α → Bool} (other : ∀ row, p row = true → key row ≠ k) :
    (rows.filter fun row => key row ≠ k).find? p = rows.find? p := by
  rw [List.find?_filter]
  congr 1
  funext row
  by_cases hit : p row = true
  · simp [hit, other row hit]
  · simp [hit]

theorem key_ne {key : Option String} {other id : Uuid} (ne : other ≠ id)
    (hit : (key == some other.text) = true) : key ≠ some id.text := by
  rw [beq_iff_eq.1 hit]
  exact fun same => ne (Uuid.text_injective (Option.some.inj same))

/-- Under the key that went nothing is found. -/
theorem find?_filter_eq_none {p : α → Bool} (same : ∀ row, p row = true → key row = k) :
    (rows.filter fun row => key row ≠ k).find? p = none := by
  rw [List.find?_eq_none]
  intro row member hit
  exact of_decide_eq_true (List.mem_filter.1 member).2 (same row hit)

end Find

/-! ## What each deletion takes away -/

section Removed

variable (s : Store) (id : Uuid)

theorem removes_component : Removes s (.component id) { s with
    components := s.components.filter fun c => c.id ≠ some id.text
    labels := s.labels.filter fun l => l.component ≠ id.text } where
  rows := by
    simp [allRows, Row.goesWith, List.filter_map, Function.comp_def, Table.rows_filter]
  gone := by
    intro part is_part
    cases is_part with
    | self =>
      rw [read, getComponent, Table.rows_filter,
        find?_filter_eq_none fun row hit => beq_iff_eq.1 hit]
      rfl
  others := by
    intro other not_part
    cases other with
    | component other =>
      have ne : other ≠ id := by
        intro same
        rw [same] at not_part
        exact not_part (.self _)
      have label_ne : id.text ≠ other.text := fun same => ne (Uuid.text_injective same).symm
      rw [read, getComponent, Table.rows_filter, find?_filter_of_ne fun row => key_ne ne, labelsOf,
        Table.rows_filter, filter_key_of_ne label_ne]
      rfl
    | _ => rfl

theorem removes_impactType : Removes s (.impactType id) { s with
    impactTypes := s.impactTypes.filter fun t => t.id ≠ some id.text } where
  rows := by
    simp [allRows, Row.goesWith, List.filter_map, Function.comp_def, Table.rows_filter]
  gone := by
    intro part is_part
    cases is_part with
    | self =>
      rw [read, getImpactType, Table.rows_filter,
        find?_filter_eq_none fun row hit => beq_iff_eq.1 hit]
      rfl
  others := by
    intro other not_part
    cases other with
    | impactType other =>
      have ne : other ≠ id := by
        intro same
        rw [same] at not_part
        exact not_part (.self _)
      rw [read, getImpactType, Table.rows_filter, find?_filter_of_ne fun row => key_ne ne]
      rfl
    | _ => rfl

theorem removes_incident : Removes s (.incident id) { s with
    incidents := s.incidents.filter fun i => i.id ≠ some id.text
    impacts := s.impacts.filter fun m => m.incident ≠ id.text
    updates := s.updates.filter fun u => u.incident ≠ id.text } where
  rows := by
    simp [allRows, Row.goesWith, List.filter_map, Function.comp_def, Table.rows_filter]
  gone := by
    intro part is_part
    cases is_part with
    | self =>
      rw [read, getIncident, findIncident, Table.rows_filter,
        find?_filter_eq_none fun row hit => beq_iff_eq.1 hit]
      rfl
    | update id order =>
      have owned (row : UpdateRow) (hit : row.isAt id order = true) : row.incident = id.text :=
        beq_iff_eq.1 (Bool.and_eq_true_iff.1 hit).1
      rw [read, getUpdate, Table.rows_filter, find?_filter_eq_none owned]
      rfl
  others := by
    intro other not_part
    cases other with
    | incident other =>
      have ne : other ≠ id := by
        intro same
        rw [same] at not_part
        exact not_part (.self _)
      rw [read, getIncident, findIncident, Table.rows_filter,
        find?_filter_of_ne fun row => key_ne ne]
      rfl
    | update other order =>
      have ne : other ≠ id := by
        intro same
        rw [same] at not_part
        exact not_part (.update id order)
      have row_ne (row : UpdateRow) (hit : row.isAt other order = true) :
          row.incident ≠ id.text := by
        rw [beq_iff_eq.1 (Bool.and_eq_true_iff.1 hit).1]
        exact fun same => ne (Uuid.text_injective same)
      rw [read, getUpdate, Table.rows_filter, find?_filter_of_ne row_ne]
      rfl
    | _ => rfl

end Removed

/-! ## Deletion of each kind -/

namespace Consistent

variable {s : Store} (h : s.Consistent)

include h

/-- The rows of impacts are those of the impacts that incidents have. -/
theorem mem_impacts_iff {m : ImpactRow} : m ∈ s.impacts.rows ↔
    ∃ incident impact, m = impactRow incident impact ∧ s.HasImpact incident impact := by
  constructor
  · intro member
    obtain ⟨incident, impact, rfl, -⟩ := h.impactRows m member
    have known : some incident.text ∈ s.incidentKeys :=
      h.impactIncidents (impactRow incident impact) member
    exact ⟨incident, impact, rfl, hasIncident_iff.2 known, member⟩
  · intro listed
    rcases listed with ⟨incident, impact, rfl, has⟩
    exact has.2

/-- The column of the impacts that refers to a kind of entity has the entities that are named. -/
theorem holds_iff {subject : Subject} {column : ImpactRow → Bool}
    (named : ∀ incident impact, column (impactRow incident impact) = true ↔ impact.Names subject) :
    s.Holds subject ↔ s.impacts.rows.any column = true := by
  rw [List.any_eq_true]
  constructor
  · intro held
    rcases held with ⟨incident, impact, has, names⟩
    exact ⟨_, has.2, (named incident impact).2 names⟩
  · intro hit
    rcases hit with ⟨m, member, hit⟩
    rcases h.mem_impacts_iff.1 member with ⟨incident, impact, rfl, has⟩
    exact ⟨incident, impact, has, (named incident impact).1 hit⟩

theorem holds_component_iff {id : Uuid} : s.Holds (.component id) ↔
    (s.impacts.rows.any fun m => m.component == id.text) = true := by
  apply h.holds_iff
  intro incident impact
  rw [beq_iff_eq]
  exact Uuid.text_inj

theorem holds_impactType_iff {id : Uuid} : s.Holds (.impactType id) ↔
    (s.impacts.rows.any fun m => m.impactType == id.text) = true := by
  apply h.holds_iff
  intro incident impact
  rw [beq_iff_eq]
  exact Uuid.text_inj

theorem deleteComponent_deletes (id : Uuid) :
    Deletes s (.component id) (s.deleteComponent id) :=
  deletes_ite read_component_eq_none_iff h.holds_component_iff rfl rfl (removes_component s id)

theorem deleteImpactType_deletes (id : Uuid) :
    Deletes s (.impactType id) (s.deleteImpactType id) :=
  deletes_ite read_impactType_eq_none_iff h.holds_impactType_iff rfl rfl (removes_impactType s id)

end Consistent

/-- No impact names an incident, so nothing holds one. -/
theorem deleteIncident_deletes (s : Store) (id : Uuid) :
    Deletes s (.incident id) (s.deleteIncident id) := by
  rw [Store.deleteIncident]
  split
  · next known =>
    have there : s.read (.incident id) ≠ .ok none :=
      fun missing => read_incident_eq_none_iff.1 missing known
    have free : ¬ s.Holds (.incident id) := by
      intro held
      obtain ⟨-, impact, -, names⟩ := held
      exact names
    exact deletes_of_free there free (removes_incident s id)
  · next unknown =>
    exact deletes_of_missing (read_incident_eq_none_iff.2 unknown) rfl

/-! ## An identifier that comes back -/

/-- An incident has the impacts of an input and no others, no updates, and the first number for the
next one. -/
structure OwnIncident (s : Store) (id : Uuid) (input : NewIncident) : Prop where
  impacts : ∀ impact, s.HasImpact id impact ↔ impact ∈ input.impacts
  /-- They are shown at every instant at which the incident is active. -/
  shown : ∃ row, s.findIncident id = some row ∧ ∀ t, s.affectedComponents id t =
    .ok (if row.activeAt t then input.impacts.mergeSort Impact.le else [])
  updates : s.listUpdates id = .ok []
  next : s.nextUpdateOrder id = .ok 0

/-- A component has the name and labels of an input and no others, and nothing affects it. -/
structure OwnComponent (s : Store) (id : Uuid) (input : NewComponent) : Prop where
  read : s.getComponent id = .ok (some (input.withId id))
  unaffected : ∀ t, s.affectingIncidents id t = .ok []

namespace Consistent

variable {s : Store} (h : s.Consistent)

include h

/-- There are no updates of an incident that is not there. -/
theorem updatesOf_eq_nil {id : Uuid} (absent : s.hasIncident id = false) : s.updatesOf id = [] := by
  apply List.filter_eq_nil_iff.2
  intro u member hit
  have known := h.updateIncidents u member
  rw [beq_iff_eq.1 hit, ← hasIncident_iff, absent] at known
  cases known

/-- No impact is on a component that is not there. -/
theorem component_ne {id : Uuid} (absent : s.hasComponent id = false) :
    ∀ m ∈ s.impacts.rows, m.component ≠ id.text := by
  intro m member same
  have known := h.impactComponents m member
  rw [same, ← hasComponent_iff, absent] at known
  cases known

theorem createIncident_own (m : Moment) (input : NewIncident) :
    (∃ fault, s.createIncident m.id input = .fail s fault) ∨
      OwnIncident (s.createIncident m.id input).store m.id input := by
  have done := createIncident_effect m s input
  have next := h.effect done
  generalize s.createIncident m.id input = o at done next
  cases done with
  | read reads => cases reads
  | failed fault => exact Or.inl ⟨fault, rfl⟩
  | @createIncident _ phase accepted admitted fresh =>
    dsimp only at next ⊢
    generalize created : ({ s with
      incidents := s.incidents.insert (input.withId m.id phase).row
      impacts := s.impactsFor m.id input.impacts } : Store) = t at next ⊢
    have found : t.findIncident m.id = some (input.withId m.id phase).row := by
      rw [← created]
      exact find?_insert_of_fresh fresh (beq_self_eq_true _)
    have known : t.hasIncident m.id = true := by
      rw [← findIncident_isSome, found, Option.isSome_some]
    have rows : t.impactsOf m.id = input.impacts.map (impactRow m.id) := by
      rw [← created]
      exact filter_impactsFor_self s m.id input.impacts
    have no_updates : t.updatesOf m.id = [] := by
      rw [← created]
      exact h.updatesOf_eq_nil fresh
    have given (impact : Impact) : t.HasImpact m.id impact ↔ impact ∈ input.impacts := by
      have of_it : ((impactRow m.id impact).incident == m.id.text) = true := beq_self_eq_true _
      have member : impactRow m.id impact ∈ t.impactsOf m.id ↔
          impactRow m.id impact ∈ t.impacts.rows := by
        rw [impactsOf, List.mem_filter, and_iff_left of_it]
      rw [HasImpact, and_iff_right known, ← member, rows]
      exact List.mem_map_of_injective fun a b same => (impactRow_inj.1 same).2
    refine Or.inr ⟨given, ⟨_, found, next.affectedComponents_eq found rows⟩, ?_, ?_⟩
    · rw [listUpdates, if_pos known, no_updates, List.mergeSort_nil]
      rfl
    · rw [nextUpdateOrder, if_pos known, allocateOrder, no_updates]
      rfl

theorem createComponent_own (m : Moment) (input : NewComponent) :
    (∃ fault, s.createComponent m.id input = .fail s fault) ∨
      OwnComponent (s.createComponent m.id input).store m.id input := by
  have done := createComponent_effect m s input
  have next := h.effect done
  generalize s.createComponent m.id input = o at done next
  cases done with
  | read reads => cases reads
  | failed fault => exact Or.inl ⟨fault, rfl⟩
  | createComponent name keys fresh =>
    dsimp only at next ⊢
    have saves : Saves s (.component (input.withId m.id)) none _ := saves_createComponent fresh
    have saved := saves.saved
    generalize created : ({ s with
      components := s.components.insert ⟨some m.id.text, input.displayName⟩ } :
      Store).setLabels m.id input.labels = t at next saved ⊢
    have impacts : t.impacts = s.impacts := by
      rw [← created]
      rfl
    have read : t.getComponent m.id = .ok (some (input.withId m.id)) := by
      rw [Entity.subject, Store.read] at saved
      obtain ⟨c?, answer, same⟩ := map_ok_iff.1 saved
      obtain ⟨c, rfl, component⟩ := Option.map_eq_some_iff.1 same
      cases component
      exact answer
    have known := next.hasComponent_of_getComponent read
    refine Or.inr ⟨read, fun at_instant => ?_⟩
    obtain ⟨listed, answer, member⟩ := next.mem_affectingIncidents known at_instant
    have nothing : listed = [] := by
      apply List.eq_nil_iff_forall_not_mem.2
      intro a a_member
      have there := List.mem_of_mem_filter ((member a).1 a_member)
      rw [impacts] at there
      exact h.component_ne fresh _ there rfl
    rw [answer, nothing]

end Consistent

/-! ## After an incident went -/

/-- No incident but one has impacts that name an entity. -/
def OnlyNamedBy (s : Store) (id : Uuid) (subject : Subject) : Prop :=
  ∀ incident impact, s.HasImpact incident impact → impact.Names subject → incident = id

/-- The entities that only one incident named can be deleted. -/
structure Frees (s : Store) (id : Uuid) (next : Store) : Prop where
  components : ∀ c, s.read (.component c) ≠ .ok none → s.OnlyNamedBy id (.component c) →
    (next.deleteComponent c).answer = .ok ()
  impactTypes : ∀ t, s.read (.impactType t) ≠ .ok none → s.OnlyNamedBy id (.impactType t) →
    (next.deleteImpactType t).answer = .ok ()

/-- The impacts that are left are those of other incidents. -/
theorem hasImpact_of_deleteIncident {s : Store} {id : Uuid}
    (went : (s.deleteIncident id).answer = .ok ()) {incident : Uuid} {impact : Impact}
    (has : (s.deleteIncident id).store.HasImpact incident impact) :
    s.HasImpact incident impact ∧ incident ≠ id := by
  rw [deleteIncident] at went has
  split at went
  · next known =>
    rw [if_pos known] at has
    obtain ⟨i, member, key⟩ := List.any_eq_true.1 has.1
    have row : impactRow incident impact ∈ (s.impacts.filter fun m => m.incident ≠ id.text).rows :=
      has.2
    rw [mem_filter_rows, decide_eq_true_eq] at row
    refine ⟨⟨List.any_eq_true.2 ⟨i, (mem_filter_rows.1 member).1, key⟩, row.1⟩, ?_⟩
    exact fun same => row.2 (congrArg Uuid.text same)
  · cases went

theorem not_holds_of_deleteIncident {s : Store} {id : Uuid}
    (went : (s.deleteIncident id).answer = .ok ()) {subject : Subject}
    (only : s.OnlyNamedBy id subject) : ¬ (s.deleteIncident id).store.Holds subject := by
  intro held
  obtain ⟨incident, impact, has, names⟩ := held
  obtain ⟨had, other⟩ := hasImpact_of_deleteIncident went has
  exact other (only incident impact had names)

theorem Consistent.deleteIncident_frees {s : Store} (h : s.Consistent) {id : Uuid}
    (went : (s.deleteIncident id).answer = .ok ()) : Frees s id (s.deleteIncident id).store := by
  have next : (s.deleteIncident id).store.Consistent :=
    h.effect (deleteIncident_effect ⟨Instant.epoch, fun _ => default⟩ s id)
  have removed := (deleteIncident_deletes s id).removes went
  refine ⟨fun c there only => ?_, fun t there only => ?_⟩
  · have kept := removed.others (.component c) nofun
    apply (next.deleteComponent_deletes c).ok_iff.2
    exact ⟨kept ▸ there, not_holds_of_deleteIncident went only⟩
  · have kept := removed.others (.impactType t) nofun
    apply (next.deleteImpactType_deletes t).ok_iff.2
    exact ⟨kept ▸ there, not_holds_of_deleteIncident went only⟩

/-! ## Every store -/

/-- Deletions restrict and cascade exactly. A component or impact type that does not exist is not
found, one that an impact of any incident names is in conflict, and any other one goes, a component
with its labels; an incident goes whenever it exists, with its impacts and updates. Nothing else
goes with them, and what only the incident named can be deleted after it. An incident or component
that is created later under the identifier has only what it was given. -/
theorem deletions_exact {s : Store} (reachable : s.Reachable) :
    (∀ id, Deletes s (.component id) (s.deleteComponent id)) ∧
      (∀ id, Deletes s (.impactType id) (s.deleteImpactType id)) ∧
      (∀ id, Deletes s (.incident id) (s.deleteIncident id)) ∧
      (∀ id, (s.deleteIncident id).answer = .ok () → Frees s id (s.deleteIncident id).store) ∧
      (∀ (id : Uuid) (later : List (Moment × Operation)) (input : NewIncident),
        let t := (s.deleteIncident id).store.run later
        (∃ fault, t.createIncident id input = .fail t fault) ∨
          OwnIncident (t.createIncident id input).store id input) ∧
      ∀ (id : Uuid) (later : List (Moment × Operation)) (input : NewComponent),
        let t := (s.deleteComponent id).store.run later
        (∃ fault, t.createComponent id input = .fail t fault) ∨
          OwnComponent (t.createComponent id input).store id input := by
  obtain ⟨operations, rfl⟩ := reachable
  have consistent : (empty.run operations).Consistent := consistent_run .empty operations
  generalize empty.run operations = s at consistent
  refine ⟨consistent.deleteComponent_deletes, consistent.deleteImpactType_deletes,
    deleteIncident_deletes s, fun id => consistent.deleteIncident_frees, ?_, ?_⟩
  · intro id later input
    have next : (s.deleteIncident id).store.Consistent :=
      consistent.effect (deleteIncident_effect ⟨Instant.epoch, fun _ => default⟩ s id)
    exact (consistent_run next later).createIncident_own ⟨Instant.epoch, fun _ => id⟩ input
  · intro id later input
    have next : (s.deleteComponent id).store.Consistent :=
      consistent.effect (deleteComponent_effect ⟨Instant.epoch, fun _ => default⟩ s id)
    exact (consistent_run next later).createComponent_own ⟨Instant.epoch, fun _ => id⟩ input

/-- The component of the outage is held by it and free once the incident went, and the reports on
the incident are not those of one that is created under its identifier. -/
theorem deletions_exact_in_outage :
    let s := empty.run reportedOutage
    let freed := (s.deleteIncident (Uuid.ofNat 3)).store
    let again := (freed.createIncident (Uuid.ofNat 3) outageContent).store
    s.Reachable ∧ s.nextUpdateOrder (Uuid.ofNat 3) = .ok 2 ∧
      FailsAs s .conflict (s.deleteComponent (Uuid.ofNat 1)) ∧
      (freed.deleteComponent (Uuid.ofNat 1)).answer = .ok () ∧
      again.listUpdates (Uuid.ofNat 3) = .ok [] ∧ again.nextUpdateOrder (Uuid.ofNat 3) = .ok 0 := by
  intro s freed again
  have reachable : s.Reachable := ⟨reportedOutage, rfl⟩
  have two : s.nextUpdateOrder (Uuid.ofNat 3) = .ok 2 := by decide +kernel
  have there : s.read (.component (Uuid.ofNat 1)) ≠ .ok none := by decide +kernel
  have rows : s.impacts.rows = [impactRow (Uuid.ofNat 3) ⟨Uuid.ofNat 1, Uuid.ofNat 2, 100⟩] := by
    decide +kernel
  have known : s.hasIncident (Uuid.ofNat 3) = true := by decide +kernel
  have went : (s.deleteIncident (Uuid.ofNat 3)).answer = .ok () := by decide +kernel
  have created : (freed.createIncident (Uuid.ofNat 3) outageContent).answer.isOk = true := by
    decide +kernel
  have has : s.HasImpact (Uuid.ofNat 3) ⟨Uuid.ofNat 1, Uuid.ofNat 2, 100⟩ :=
    ⟨known, rows ▸ List.mem_singleton_self _⟩
  have held : s.Holds (.component (Uuid.ofNat 1)) := ⟨_, _, has, rfl⟩
  have only : s.OnlyNamedBy (Uuid.ofNat 3) (.component (Uuid.ofNat 1)) := by
    intro incident impact has _
    have member := has.2
    rw [rows, List.mem_singleton] at member
    exact (impactRow_inj.1 member).1
  obtain ⟨components, -, -, frees, own, -⟩ := deletions_exact reachable
  have conflict := (components (Uuid.ofNat 1)).conflict_iff.2 ⟨there, held⟩
  have free := (frees (Uuid.ofNat 3) went).components (Uuid.ofNat 1) there only
  rcases own (Uuid.ofNat 3) [] outageContent with ⟨fault, failed⟩ | fresh
  · have refused : (freed.createIncident (Uuid.ofNat 3) outageContent).answer = .error fault :=
      congrArg Outcome.answer failed
    rw [refused] at created
    cases created
  · exact ⟨reachable, two, conflict, free, fresh.updates, fresh.next⟩

end Store

end StatusPage
