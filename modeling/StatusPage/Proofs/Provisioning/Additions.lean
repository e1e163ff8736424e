import Mathlib
import StatusPage.Proofs.Provisioning.Again
import StatusPage.Proofs.Store.Listings

/-!
# What provisioning adds

Provisioning adds rows at the end of tables. Of the impact types of a seed it creates those whose
names are not in the store, as far as it gets (`run_impactTypes`), and of the severities the first
of each such name (`run_severities`).

Impact types are looked for in a list that is read once, before the first of them is created. So two
entries of a seed with one new name are both created, and `impactTypes_named_once_iff` says that
nothing else gives a name to two impact types.
-/

namespace StatusPage

open Text Store

/-- What a caller has given of an impact type. -/
def ImpactType.given (t : ImpactType) : NewImpactType := ⟨t.displayName, t.description⟩

namespace Store

/-! ## Impact types by name -/

/-- How many impact types have a name. -/
def typesNamed (s : Store) (name : String) : Nat :=
  s.impactTypes.rows.countP fun row => row.displayName == name

theorem typesNamed_append {s next : Store} {created : List ImpactType}
    (rows : next.impactTypes.rows = s.impactTypes.rows ++ created.map impactTypeRow)
    (name : String) :
    next.typesNamed name = s.typesNamed name +
      (created.map ImpactType.given).countP fun input => input.displayName == name := by
  rw [typesNamed, rows, List.countP_append, List.countP_map, List.countP_map]
  rfl

theorem typesNamed_congr {s next : Store} (same : next.impactTypes = s.impactTypes) :
    next.typesNamed = s.typesNamed := by
  funext name
  rw [typesNamed, same, typesNamed]

/-- The impact types of a seed with new names. -/
def newTypes (s : Store) (inputs : List NewImpactType) : List NewImpactType :=
  inputs.filter fun input => s.typesNamed input.displayName = 0

theorem newTypes_congr {s next : Store} (same : next.impactTypes = s.impactTypes) :
    next.newTypes = s.newTypes := by
  funext inputs
  rw [newTypes, typesNamed_congr same, newTypes]

theorem Consistent.visible_of_typesNamed {s : Store} (h : s.Consistent) {name : String}
    (some_type : s.typesNamed name ≠ 0) : Visible name := by
  rw [typesNamed, ← Nat.pos_iff_ne_zero, List.countP_pos_iff] at some_type
  obtain ⟨row, member, same⟩ := some_type
  rw [← beq_iff_eq.1 same]
  exact h.impactTypeNames row member

/-- The listing of the impact types has the names that are not new. -/
theorem Consistent.exists_listImpactTypes {s : Store} (h : s.Consistent) :
    ∃ listed, s.listImpactTypes = .ok listed ∧
      ∀ name, name ∈ listed.map (·.displayName) ↔ s.typesNamed name ≠ 0 := by
  obtain ⟨ts, rows⟩ := h.exists_impactTypes
  refine ⟨_, listImpactTypes_eq rows, fun name => ?_⟩
  rw [typesNamed, rows, List.countP_map, ne_eq, List.countP_eq_zero]
  simp [mem_sortedBy, impactTypeRow]

/-- The creation of an impact type fails, or the impact type goes in at the end. -/
theorem createImpactType_cases (s : Store) (id : Uuid) (input : NewImpactType) :
    (∃ fault, s.createImpactType id input = .fail s fault) ∨
      s.createImpactType id input = ⟨.ok (input.withId id), { s with
        impactTypes := s.impactTypes.insert (impactTypeRow (input.withId id)) }⟩ := by
  unfold createImpactType
  split
  · exact Or.inl ⟨_, rfl⟩
  · split
    · exact Or.inl ⟨_, rfl⟩
    · exact Or.inr rfl

end Store

namespace Provision

/-! ## How far provisioning gets -/

/-- The impact types of a seed that provisioning was through with when it stopped at a step. -/
def Step.Through (inputs through : List NewImpactType) : Step → Prop
  | .readGeneration | .createPhases | .listImpactTypes => through = []
  | .createImpactType name =>
    ∃ input rest, inputs = through ++ input :: rest ∧ input.displayName = name
  | .findSeverity _ | .checkSeverity _ | .createSeverity _ => through = inputs

/-- The impact types of a seed that provisioning was through with when it answered: all of them
unless it stopped before. -/
def Through (inputs through : List NewImpactType) : Except Stop Unit → Prop
  | .ok _ => through = inputs
  | .error stop => stop.step.Through inputs through

theorem Through.cons {input : NewImpactType} {inputs through : List NewImpactType}
    {answer : Except Stop Unit} (h : Through inputs through answer)
    (looped : ∀ stop, answer = .error stop → ∃ name, stop.step = .createImpactType name) :
    Through (input :: inputs) (input :: through) answer := by
  cases answer with
  | ok _ => exact congrArg (input :: ·) h
  | error stop =>
    obtain ⟨name, step⟩ := looped stop rfl
    rw [Through, step] at h ⊢
    obtain ⟨next, rest, rfl, same⟩ := h
    exact ⟨next, rest, rfl, same⟩

theorem Through.front {inputs through : List NewImpactType} {answer : Except Stop Unit}
    (h : Through inputs through answer) : through <+: inputs := by
  cases answer with
  | ok _ =>
    have all : through = inputs := h
    rw [all]
  | error stop =>
    rw [Through] at h
    cases step : stop.step with
    | createImpactType name =>
      rw [step] at h
      obtain ⟨input, rest, rfl, -⟩ := h
      exact List.prefix_append through (input :: rest)
    | readGeneration | createPhases | listImpactTypes =>
      rw [step] at h
      have none_yet : through = [] := h
      rw [none_yet]
      exact List.nil_prefix
    | findSeverity name | checkSeverity name | createSeverity name =>
      rw [step] at h
      have all : through = inputs := h
      rw [all]

/-- Phases stop a provisioning before any impact type, and write nothing then. -/
theorem providePhases_of_error {s : Store} {names : List String} {stop : Stop}
    (stopped : (providePhases s names).1 = .error stop) :
    (stop.step = .readGeneration ∨ stop.step = .createPhases) ∧ (providePhases s names).2 = s := by
  rw [providePhases] at stopped ⊢
  split at stopped
  · cases stopped
  · next some_names =>
    rw [if_neg some_names]
    split at stopped
    · cases stopped
      exact ⟨Or.inl rfl, rfl⟩
    · split at stopped
      · next first =>
        have done := createGeneration_effect ⟨Instant.epoch, fun _ => default⟩ s names
        dsimp only at stopped ⊢
        rw [if_pos first]
        generalize s.createGeneration names = o at stopped done ⊢
        cases done with
        | read reads => cases reads
        | failed fault =>
          cases stopped
          exact ⟨Or.inr rfl, rfl⟩
        | createGeneration => cases stopped
      · cases stopped

/-! ## Impact types -/

/-- Impact types go in one after the other at the end of the table, each for an entry whose name was
not present, and no entry before the one at which provisioning stops is left out. -/
theorem addImpactTypes_rows (draw : Nat → Uuid) (present : List String) (drawn : Nat) (s : Store)
    (inputs : List NewImpactType) :
    ∃ (through : List NewImpactType) (created : List ImpactType),
      Through inputs through (addImpactTypes draw present drawn s inputs).1 ∧
      (∀ stop, (addImpactTypes draw present drawn s inputs).1 = .error stop →
        ∃ name, stop.step = .createImpactType name) ∧
      (addImpactTypes draw present drawn s inputs).2.impactTypes.rows =
        s.impactTypes.rows ++ created.map impactTypeRow ∧
      created.map ImpactType.given = through.filter (·.displayName ∉ present) := by
  induction inputs generalizing drawn s with
  | nil =>
    refine ⟨[], [], rfl, ?_, (List.append_nil _).symm, rfl⟩
    intro stop stopped
    cases stopped
  | cons input rest ih =>
    by_cases named : input.displayName ∈ present
    · rw [addImpactTypes_of_known named]
      obtain ⟨through, created, reached, looped, rows, given⟩ := ih drawn s
      refine ⟨input :: through, created, reached.cons looped, looped, rows, ?_⟩
      rw [given, List.filter_cons_of_neg (by simpa using named)]
    · rcases createImpactType_cases s (draw drawn) input with ⟨fault, failed⟩ | first
      · rw [addImpactTypes_of_failed named failed]
        refine ⟨[], [], ⟨input, rest, rfl, rfl⟩, ?_, (List.append_nil _).symm, rfl⟩
        intro stop same
        cases same
        exact ⟨input.displayName, rfl⟩
      · rw [addImpactTypes_of_created named first]
        obtain ⟨through, created, reached, looped, rows, given⟩ := ih (drawn + 1) { s with
          impactTypes := s.impactTypes.insert (impactTypeRow (input.withId (draw drawn))) }
        refine ⟨input :: through, input.withId (draw drawn) :: created, reached.cons looped, looped,
          ?_, ?_⟩
        · rw [rows, Table.rows_insert, List.append_assoc]
          rfl
        · rw [List.map_cons, given, List.filter_cons_of_pos (by simpa using named)]
          rfl

/-- The entries whose names are not listed are those with new names. -/
theorem filter_not_listed {s : Store} {listed : List ImpactType}
    (names : ∀ name, name ∈ listed.map (·.displayName) ↔ s.typesNamed name ≠ 0)
    (inputs : List NewImpactType) :
    inputs.filter (·.displayName ∉ listed.map (·.displayName)) = s.newTypes inputs := by
  apply List.filter_congr
  intro input _
  exact decide_eq_decide.2 ((not_congr (names input.displayName)).trans not_not)

/-- The impact types that are created are those with new names, as far as provisioning gets. -/
theorem provideImpactTypes_rows {s : Store} (h : s.Consistent) (draw : Nat → Uuid)
    (inputs : List NewImpactType) :
    ∃ (through : List NewImpactType) (created : List ImpactType),
      Through inputs through (provideImpactTypes draw s inputs).1 ∧
      (provideImpactTypes draw s inputs).2.impactTypes.rows =
        s.impactTypes.rows ++ created.map impactTypeRow ∧
      created.map ImpactType.given = s.newTypes through := by
  obtain ⟨listed, answer, names⟩ := h.exists_listImpactTypes
  obtain ⟨through, created, reached, -, rows, given⟩ :=
    addImpactTypes_rows draw (listed.map (·.displayName)) 0 s inputs
  rw [provideImpactTypes_of_listed answer]
  exact ⟨through, created, reached, rows, given.trans (filter_not_listed names through)⟩

/-! ## Severities -/

/-- A consistent store answers every look for a severity, so what stops is its check or its
creation. The severities that are created go in at the end of the table. -/
theorem provideSeverities_rows {s : Store} (h : s.Consistent) (seeds : List SeveritySeed) :
    ∃ created : List SeveritySeed, created <+: lacking s.hasSeverity seeds ∧
      (∀ seed ∈ created, 0 ≤ seed.value ∧ seed.value ≤ 100) ∧
      (provideSeverities s seeds).2.severities.rows =
        s.severities.rows ++ created.map (fun seed => severityRow seed.onScale) ∧
      (((provideSeverities s seeds).1 = .ok () ∧ created = lacking s.hasSeverity seeds) ∨
        ∃ stop : Stop, (provideSeverities s seeds).1 = .error stop ∧
          ∃ name, stop.step = .checkSeverity name ∨ stop.step = .createSeverity name) := by
  induction seeds generalizing s with
  | nil => exact ⟨[], List.nil_prefix, nofun, (List.append_nil _).symm, Or.inl ⟨rfl, rfl⟩⟩
  | cons seed rest ih =>
    rw [lacking]
    cases named : s.hasSeverity seed.displayName with
    | true =>
      rw [provideSeverities_of_known h named, if_pos rfl]
      exact ih h
    | false =>
      rw [if_neg Bool.false_ne_true]
      by_cases fits : Visible seed.displayName ∧ (0 ≤ seed.value ∧ seed.value ≤ 100) ∧
          s.usesValue seed.value = false
      · obtain ⟨visible, scale, unused⟩ := fits
        obtain ⟨created, front, scales, rows, answer⟩ :=
          ih (consistent_withSeverity h named visible scale unused)
        have names : (s.withSeverity seed.onScale).hasSeverity =
            fun name => s.hasSeverity name || seed.displayName == name :=
          hasSeverity_withSeverity s seed.onScale
        rw [names] at front answer
        rw [provideSeverities_of_added named visible scale unused]
        refine ⟨seed :: created, (List.prefix_cons_inj seed).2 front,
          List.forall_mem_cons.2 ⟨scale, scales⟩, ?_, ?_⟩
        · rw [rows, withSeverity, Table.rows_insert, List.append_assoc]
          rfl
        · rcases answer with ⟨went, all⟩ | stopped
          · exact Or.inl ⟨went, congrArg (seed :: ·) all⟩
          · exact Or.inr stopped
      · obtain ⟨stop, step, stopped⟩ := provideSeverities_of_refused named fits
        rw [stopped rest]
        exact ⟨[], List.nil_prefix, nofun, by simp, Or.inr ⟨stop, rfl, seed.displayName, step⟩⟩

/-- The first entry of a name that is not known has to be created, and no other one of the name. -/
theorem find?_lacking {known : String → Bool} {name : String} (new : known name = false)
    (seeds : List SeveritySeed) :
    (lacking known seeds).find? (·.displayName == name) =
      seeds.find? (·.displayName == name) := by
  induction seeds generalizing known with
  | nil => rfl
  | cons seed rest ih =>
    rw [lacking, List.find?_cons]
    cases hit : seed.displayName == name with
    | true =>
      have unknown : known seed.displayName = false := by rw [beq_iff_eq.1 hit, new]
      rw [unknown, if_neg Bool.false_ne_true, List.find?_cons, hit]
    | false =>
      split
      · exact ih new
      · rw [List.find?_cons, hit]
        exact ih (by rw [new, hit, Bool.or_false])

/-! ## The three tables -/

section Tables

variable {s : Store} (h : s.Consistent) (draw : Nat → Uuid) (seed : Seed)

include h

theorem run_impactTypes :
    ∃ (through : List NewImpactType) (created : List ImpactType),
      Through seed.impactTypes through (run draw s seed).1 ∧
      (run draw s seed).2.impactTypes.rows =
        s.impactTypes.rows ++ created.map impactTypeRow ∧
      created.map ImpactType.given = s.newTypes through := by
  have first := consistent_providePhases h seed.phases
  obtain ⟨phases, left⟩ := exists_providePhases_store s seed.phases
  have table : (providePhases s seed.phases).2.impactTypes = s.impactTypes := by rw [left]
  have names := newTypes_congr table
  obtain ⟨through, created, reached, rows, given⟩ :=
    provideImpactTypes_rows first draw seed.impactTypes
  rw [table] at rows
  rw [names] at given
  rcases run_cases draw s seed with ⟨stop, stopped, ran⟩ | ⟨-, stop, stopped, ran⟩ | ⟨-, went, ran⟩
  · rw [ran]
    refine ⟨[], [], ?_, by rw [table, List.map_nil, List.append_nil], rfl⟩
    rcases (providePhases_of_error stopped).1 with step | step
    · rw [Through, step, Step.Through]
    · rw [Through, step, Step.Through]
  · rw [ran]
    rw [stopped] at reached
    exact ⟨through, created, reached, rows, given⟩
  · rw [went] at reached
    have second := (provideImpactTypes_addsWords draw _ seed.impactTypes).consistent first
    obtain ⟨severities, others⟩ := provideSeverities_store
      (provideImpactTypes draw (providePhases s seed.phases).2 seed.impactTypes).2 seed.severities
    obtain ⟨_, -, -, -, answer⟩ := provideSeverities_rows second seed.severities
    refine ⟨through, created, ?_, ?_, given⟩
    · rcases answer with ⟨ok, -⟩ | ⟨stop, stopped, name, step | step⟩
      · rw [ran, ok]
        exact reached
      · rw [ran, stopped, Through, step]
        exact reached
      · rw [ran, stopped, Through, step]
        exact reached
    · rw [ran, others]
      exact rows

theorem run_severities :
    ∃ created : List SeveritySeed, created <+: lacking s.hasSeverity seed.severities ∧
      (∀ entry ∈ created, 0 ≤ entry.value ∧ entry.value ≤ 100) ∧
      (run draw s seed).2.severities.rows =
        s.severities.rows ++ created.map (fun entry => severityRow entry.onScale) ∧
      ((run draw s seed).1 = .ok () → created = lacking s.hasSeverity seed.severities) := by
  have first := consistent_providePhases h seed.phases
  have second := (provideImpactTypes_addsWords draw _ seed.impactTypes).consistent first
  obtain ⟨phases, left⟩ := exists_providePhases_store s seed.phases
  obtain ⟨types, added⟩ :=
    provideImpactTypes_store draw (providePhases s seed.phases).2 seed.impactTypes
  have table : (provideImpactTypes draw (providePhases s seed.phases).2
      seed.impactTypes).2.severities = s.severities := by rw [added, left]
  have rest {rows : List SeverityRow} : rows = rows ++ ([] : List SeveritySeed).map
      (fun entry => severityRow entry.onScale) := (List.append_nil rows).symm
  rcases run_cases draw s seed with ⟨stop, -, ran⟩ | ⟨-, stop, -, ran⟩ | ⟨-, -, ran⟩
  · rw [ran, left]
    exact ⟨[], List.nil_prefix, nofun, rest, nofun⟩
  · rw [ran, table]
    exact ⟨[], List.nil_prefix, nofun, rest, nofun⟩
  · have names := hasSeverity_congr table
    obtain ⟨created, front, scale, rows, answer⟩ := provideSeverities_rows second seed.severities
    rw [names] at front answer
    rw [table] at rows
    rw [ran]
    refine ⟨created, front, scale, rows, fun went => ?_⟩
    rcases answer with ⟨-, all⟩ | ⟨stop, stopped, -⟩
    · exact all
    · rw [went] at stopped
      cases stopped

end Tables

/-! ## Impact types of one name -/

/-- As many impact types get a new name as entries have it, and no others get one that is not new.
-/
theorem typesNamed_run {s : Store} (h : s.Consistent) (draw : Nat → Uuid) (seed : Seed) :
    ∃ through, Through seed.impactTypes through (run draw s seed).1 ∧
      ∀ name, (run draw s seed).2.typesNamed name =
        if s.typesNamed name = 0 then (through.map (·.displayName)).count name
        else s.typesNamed name := by
  obtain ⟨through, created, reached, rows, given⟩ := run_impactTypes h draw seed
  refine ⟨through, reached, fun name => ?_⟩
  rw [typesNamed_append rows, given, newTypes, List.countP_filter, List.count_eq_countP,
    List.countP_map]
  split
  · next new =>
    rw [new, Nat.zero_add]
    apply List.countP_congr
    intro input _
    by_cases same : input.displayName = name
    · simp [same, new]
    · simp [same]
  · next old =>
    rw [Nat.add_eq_left, List.countP_eq_zero]
    intro input _
    by_cases same : input.displayName = name
    · simp [same, old]
    · simp [same]

/-- Provisioning gives a name to two impact types, where there was none of that name, exactly if two
of the entries that it got through with have the name. So all names are given once exactly if among
those entries no new name is repeated. -/
theorem impactTypes_named_once_iff {s : Store} (reachable : s.Reachable) (draw : Nat → Uuid)
    (seed : Seed) :
    ∃ through, Through seed.impactTypes through (run draw s seed).1 ∧
      (∀ name, (run draw s seed).2.typesNamed name =
        if s.typesNamed name = 0 then (through.map (·.displayName)).count name
        else s.typesNamed name) ∧
      ((∀ name, (run draw s seed).2.typesNamed name ≤ max 1 (s.typesNamed name)) ↔
        ((through.map (·.displayName)).filter fun name => s.typesNamed name = 0).Nodup) := by
  obtain ⟨operations, rfl⟩ := reachable
  obtain ⟨through, reached, counts⟩ := typesNamed_run (consistent_run .empty operations) draw seed
  refine ⟨through, reached, counts, ?_⟩
  let unused (name : String) : Bool := (empty.run operations).typesNamed name = 0
  rw [List.nodup_iff_count_le_one]
  apply forall_congr'
  intro name
  rw [counts]
  split
  · next new =>
    have new_too : unused name = true := decide_eq_true new
    rw [List.count_filter new_too, new]
    exact Iff.rfl
  · next old =>
    have nowhere : name ∉ (through.map (·.displayName)).filter unused :=
      fun member => old (of_decide_eq_true (List.mem_filter.1 member).2)
    rw [List.count_eq_zero_of_not_mem nowhere]
    exact iff_of_true (le_max_right 1 _) (Nat.zero_le 1)

/-- A vocabulary that names "Down" twice and "Gone" once. -/
def repeatingSeed : Seed :=
  ⟨["Open"], [⟨"Down", "again"⟩, ⟨"Gone", ""⟩, ⟨"Down", ""⟩], [⟨"minor", 20⟩, ⟨"minor", 30⟩]⟩

/-- Where "Down" is there already, it is not created again. -/
theorem impactTypes_named_once_with_down :
    let s := empty.run [(momentOf 2, .createImpactType ⟨"Down", ""⟩)]
    let draw := fun k => Uuid.ofNat (10 + k)
    s.Reachable ∧ (run draw s repeatingSeed).1 = .ok () ∧ s.typesNamed "Down" = 1 ∧
      (run draw s repeatingSeed).2.typesNamed "Down" = 1 ∧
      (run draw s repeatingSeed).2.typesNamed "Gone" = 1 ∧
      ∀ name, (run draw s repeatingSeed).2.typesNamed name ≤ max 1 (s.typesNamed name) := by
  intro s draw
  have reachable : s.Reachable := ⟨_, rfl⟩
  have went : (run draw s repeatingSeed).1 = .ok () := by decide +kernel
  have down : s.typesNamed "Down" = 1 := by decide +kernel
  have gone : s.typesNamed "Gone" = 0 := by decide +kernel
  obtain ⟨through, reached, counts, once⟩ := impactTypes_named_once_iff reachable draw repeatingSeed
  rw [went] at reached
  have all : through = repeatingSeed.impactTypes := reached
  subst all
  refine ⟨reachable, went, down, ?_, ?_, once.2 (by decide +kernel)⟩
  · rw [counts, if_neg (by rw [down]; exact one_ne_zero), down]
  · rw [counts, if_pos gone]
    rfl

/-- Two entries of one new name are both created. -/
theorem impactTypes_named_twice :
    ¬ ∀ (s : Store) (draw : Nat → Uuid) (seed : Seed) (name : String), s.Reachable →
      (run draw s seed).2.typesNamed name ≤ max 1 (s.typesNamed name) := by
  intro claimed
  let seed : Seed := ⟨[], [⟨"outage", ""⟩, ⟨"outage", ""⟩], []⟩
  have once := claimed empty (fun k => Uuid.ofNat (10 + k)) seed "outage" ⟨[], rfl⟩
  revert once
  decide +kernel

end Provision

end StatusPage
