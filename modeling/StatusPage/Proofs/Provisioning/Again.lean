import Mathlib
import StatusPage.Proofs.Provisioning.Severities

/-!
# Provisioning again

Provisioning goes by names, and a later start finds the store as it was left in between. Phases are
never taken away, and impact types that are gone can always be created again; so nothing but a
severity can stop a second provisioning of a seed that went through before (`Provided.run_ok_iff`).
A severity that was renamed leaves its name to be created anew while its value is in use, and then
the start fails: `second_provisioning_stopped` is such a start. `second_provisioning_ok_iff` says
which starts go through.
-/

namespace StatusPage

open Text Store

/-! ## Impact types -/

theorem Store.visible_of_createImpactType {s : Store} {id : Uuid} {input : NewImpactType}
    {t : ImpactType} (created : (s.createImpactType id input).answer = .ok t) :
    Visible input.displayName := by
  have done : Effect ⟨Instant.epoch, fun _ => id⟩ s (.createImpactType input)
      (s.createImpactType id input) := createImpactType_effect _ s input
  generalize s.createImpactType id input = o at created done
  cases done with
  | read reads => cases reads
  | failed => cases created
  | createImpactType name => exact name

theorem Store.createImpactType_of_fresh {s : Store} {id : Uuid} {input : NewImpactType}
    (visible : Visible input.displayName) (fresh : s.hasImpactType id = false) :
    s.createImpactType id input =
      ⟨.ok (input.withId id), { s with
        impactTypes :=
          s.impactTypes.insert ⟨some id.text, input.displayName, input.description⟩ }⟩ := by
  rw [createImpactType, NewImpactType.validate_ok_iff.2 visible, fresh]
  rfl

namespace Provision

/-- The identifiers drawn from one number on up to another are of no impact type and differ. -/
structure Fresh (s : Store) (draw : Nat → Uuid) (first last : Nat) : Prop where
  unused : ∀ k, first ≤ k → k < last → s.hasImpactType (draw k) = false
  distinct : ∀ j k, first ≤ j → j < k → k < last → draw j ≠ draw k

theorem Fresh.insert {s : Store} {draw : Nat → Uuid} {first last : Nat}
    (fresh : Fresh s draw first last) (name description : String) :
    Fresh { s with impactTypes := s.impactTypes.insert ⟨some (draw first).text, name, description⟩ }
      draw (first + 1) last where
  unused := by
    intro k after k_lt
    have differ := fresh.distinct first k le_rfl after k_lt
    have old := fresh.unused k (Nat.le_of_succ_le after) k_lt
    rw [hasImpactType] at old ⊢
    rw [Table.rows_insert, List.any_append, old]
    simpa using differ
  distinct := fun j k after => fresh.distinct j k (Nat.le_of_succ_le after)

section ImpactTypes

variable {draw : Nat → Uuid} {present : List String}

/-! ### One entry -/

section Entry

variable {drawn : Nat} {s : Store} {input : NewImpactType} {rest : List NewImpactType}

theorem addImpactTypes_of_known (known : input.displayName ∈ present) :
    addImpactTypes draw present drawn s (input :: rest) =
      addImpactTypes draw present drawn s rest := by
  rw [addImpactTypes, if_pos known]

theorem addImpactTypes_of_created {t : ImpactType} {next : Store}
    (new : input.displayName ∉ present)
    (created : s.createImpactType (draw drawn) input = ⟨.ok t, next⟩) :
    addImpactTypes draw present drawn s (input :: rest) =
      addImpactTypes draw present (drawn + 1) next rest := by
  rw [addImpactTypes, if_neg new, created]

theorem addImpactTypes_of_failed {fault : Fault} (new : input.displayName ∉ present)
    (failed : s.createImpactType (draw drawn) input = .fail s fault) :
    addImpactTypes draw present drawn s (input :: rest) =
      (.error ⟨.createImpactType input.displayName, fault⟩, s) := by
  rw [addImpactTypes, if_neg new, failed]
  rfl

end Entry

/-! ### All entries -/

/-- Impact types that were provided have names that can be seen, if those that were there have. -/
theorem addImpactTypes_visible {drawn : Nat} {s : Store} {inputs : List NewImpactType}
    (seen : ∀ name ∈ present, Visible name)
    (went : (addImpactTypes draw present drawn s inputs).1 = .ok ()) :
    ∀ input ∈ inputs, Visible input.displayName := by
  induction inputs generalizing drawn s with
  | nil => simp
  | cons input rest ih =>
    rw [addImpactTypes] at went
    split at went
    · next named => exact List.forall_mem_cons.2 ⟨seen _ named, ih went⟩
    · dsimp only at went
      split at went
      · cases went
      · next created =>
        exact List.forall_mem_cons.2 ⟨visible_of_createImpactType created, ih went⟩

/-- With fresh identifiers nothing stops impact types whose names can be seen. -/
theorem addImpactTypes_ok {drawn last : Nat} {s : Store} {inputs : List NewImpactType}
    (visible : ∀ input ∈ inputs, Visible input.displayName)
    (fresh : Fresh s draw drawn last) (enough : drawn + inputs.length ≤ last) :
    (addImpactTypes draw present drawn s inputs).1 = .ok () := by
  induction inputs generalizing drawn s with
  | nil => rfl
  | cons input rest ih =>
    obtain ⟨first, others⟩ := List.forall_mem_cons.1 visible
    rw [List.length_cons] at enough
    by_cases known : input.displayName ∈ present
    · rw [addImpactTypes_of_known known]
      exact ih others fresh (by omega)
    · have unused := fresh.unused drawn le_rfl (by omega)
      rw [addImpactTypes_of_created known (createImpactType_of_fresh first unused)]
      exact ih others (fresh.insert _ _) (by omega)

theorem provideImpactTypes_of_listed {s : Store} {listed : List ImpactType}
    (answer : s.listImpactTypes = .ok listed) (inputs : List NewImpactType) :
    provideImpactTypes draw s inputs =
      addImpactTypes draw (listed.map (·.displayName)) 0 s inputs := by
  cases inputs with
  | nil => rfl
  | cons input rest => rw [provideImpactTypes, if_neg (List.cons_ne_nil input rest), answer]

end ImpactTypes

section

variable {s : Store} (h : s.Consistent) {draw : Nat → Uuid} {inputs : List NewImpactType}

include h

theorem provideImpactTypes_visible (went : (provideImpactTypes draw s inputs).1 = .ok ()) :
    ∀ input ∈ inputs, Visible input.displayName := by
  obtain ⟨present, listed, seen⟩ := h.gives_listImpactTypes
  rw [provideImpactTypes_of_listed listed] at went
  refine addImpactTypes_visible ?_ went
  intro name member
  obtain ⟨t, t_member, rfl⟩ := List.mem_map.1 member
  exact seen t t_member

theorem provideImpactTypes_ok (visible : ∀ input ∈ inputs, Visible input.displayName)
    (fresh : Fresh s draw 0 inputs.length) : (provideImpactTypes draw s inputs).1 = .ok () := by
  obtain ⟨present, listed, -⟩ := h.gives_listImpactTypes
  rw [provideImpactTypes_of_listed listed]
  exact addImpactTypes_ok visible fresh (by omega)

end

end Provision

/-! ## Phases -/

namespace Store

/-- Phases that are there stay. -/
theorem Effect.phases_ne {m : Moment} {s : Store} {operation : Operation}
    {o : Outcome operation.Result} (done : Effect m s operation o)
    (some_phases : s.phases.rows ≠ []) : o.store.phases.rows ≠ [] := by
  cases done with
  | createGeneration some_names visible highest inserted =>
    rw [(insertPhases_ok inserted).2.2.2]
    exact List.append_ne_nil_of_left_ne_nil some_phases _
  | _ => exact some_phases

theorem phases_ne_run {s : Store} (some_phases : s.phases.rows ≠ [])
    (operations : List (Moment × Operation)) : (s.run operations).phases.rows ≠ [] :=
  @run_induction (fun _ => True) (fun t => t.phases.rows ≠ [])
    (fun _ some_phases done => done.phases_ne some_phases) s some_phases operations
    fun _ _ => trivial

/-- A store with phases has a current generation. -/
theorem Consistent.exists_currentGeneration {s : Store} (h : s.Consistent)
    (some_phases : s.phases.rows ≠ []) :
    ∃ current, s.currentGeneration = .ok current ∧ current ≠ 0 := by
  obtain ⟨log, logged⟩ := h.phaseLog
  refine ⟨_, logged.currentGeneration_eq, ?_⟩
  intro zero
  have nothing := logged.eq_nil_of_first (by rw [logged.currentGeneration_eq, zero])
  rw [logged.rows_eq, nothing] at some_phases
  exact some_phases rfl

end Store

namespace Provision

/-- Provisioning that went through leaves phases if its seed has any. -/
theorem phases_ne_of_providePhases {s : Store} {names : List String} (some_names : names ≠ [])
    (went : (providePhases s names).1 = .ok ()) : (providePhases s names).2.phases.rows ≠ [] := by
  rw [providePhases, if_neg some_names] at went ⊢
  cases highest : s.currentGeneration with
  | error fault =>
    rw [highest] at went
    cases went
  | ok current =>
    rw [highest] at went
    dsimp only at went ⊢
    split
    · next first =>
      rw [if_pos first] at went
      have done := createGeneration_effect ⟨Instant.epoch, fun _ => default⟩ s names
      generalize s.createGeneration names = o at went done
      cases done with
      | read reads => cases reads
      | failed => cases went
      | @createGeneration _ last phases _ visible _ inserted =>
        obtain ⟨name, rest, rfl⟩ := List.exists_cons_of_ne_nil some_names
        rw [(insertPhases_ok inserted).2.2.2]
        exact List.append_ne_nil_of_right_ne_nil _ (List.cons_ne_nil _ _)
    · next later =>
      intro nothing
      have first : s.currentGeneration = .ok 0 := by
        rw [currentGeneration, maxGeneration, nothing]
        rfl
      rw [first, Except.ok.injEq] at highest
      exact later highest.symm

theorem providePhases_of_phases {s : Store} (h : s.Consistent) {names : List String}
    (started : names ≠ [] → s.phases.rows ≠ []) : providePhases s names = (.ok (), s) := by
  rw [providePhases]
  split
  · rfl
  · next some_names =>
    obtain ⟨current, highest, later⟩ := h.exists_currentGeneration (started some_names)
    rw [highest]
    exact if_neg later

theorem consistent_providePhases {s : Store} (h : s.Consistent) (names : List String) :
    (providePhases s names).2.Consistent := by
  rw [providePhases_store]
  split
  · exact h.effect (createGeneration_effect ⟨Instant.epoch, fun _ => default⟩ s names)
  · exact h

/-! ## The second provisioning -/

/-- What a provisioning that went through has made sure of, and no operation takes away. -/
structure Provided (s : Store) (seed : Seed) : Prop where
  consistent : s.Consistent
  phases : seed.phases ≠ [] → s.phases.rows ≠ []
  impactTypes : ∀ input ∈ seed.impactTypes, Visible input.displayName
  severities : ∀ entry ∈ seed.severities, Visible entry.displayName

/-- A provisioning that goes through leaves every severity of its seed under its name. -/
theorem provided_run {s : Store} (h : s.Consistent) {draw : Nat → Uuid} {seed : Seed}
    (went : (run draw s seed).1 = .ok ()) :
    Provided (run draw s seed).2 seed ∧
      ∀ entry ∈ seed.severities, (run draw s seed).2.hasSeverity entry.displayName = true := by
  have words := run_addsWords draw s seed
  have first := consistent_providePhases h seed.phases
  obtain ⟨phases_went, went⟩ := andThen_ok_iff.1 went
  obtain ⟨types_went, severities_went⟩ := andThen_ok_iff.1 went
  have second := (provideImpactTypes_addsWords draw _ seed.impactTypes).consistent first
  have seen := provideSeverities_ok second severities_went
  have store : (run draw s seed).2 = (provideSeverities (provideImpactTypes draw
      (providePhases s seed.phases).2 seed.impactTypes).2 seed.severities).2 :=
    congrArg Prod.snd ((andThen_of_ok phases_went _).trans (andThen_of_ok types_went _))
  refine ⟨⟨words.consistent first, ?_, provideImpactTypes_visible first types_went,
    fun entry member => (seen entry member).1⟩, ?_⟩
  · intro some_names
    obtain ⟨types, severities, left⟩ := run_store draw s seed
    rw [left]
    exact phases_ne_of_providePhases some_names phases_went
  · rw [store]
    exact fun entry member => (seen entry member).2

theorem lacking_of_known {known : String → Bool} {seeds : List SeveritySeed}
    (all : ∀ seed ∈ seeds, known seed.displayName = true) : lacking known seeds = [] := by
  induction seeds with
  | nil => rfl
  | cons seed rest ih =>
    obtain ⟨first, others⟩ := List.forall_mem_cons.1 all
    rw [lacking, if_pos first]
    exact ih others

/-- Only the severities of a store decide what it takes. -/
theorem takes_congr {s next : Store} (same : next.severities = s.severities)
    (seeds : List SeveritySeed) :
    Takes next (lacking next.hasSeverity seeds) ↔ Takes s (lacking s.hasSeverity seeds) := by
  have names := hasSeverity_congr same
  have values : next.usesValue = s.usesValue := by
    funext value
    rw [usesValue, usesValue, same]
  rw [names]
  constructor
  · rintro ⟨scale, unused, distinct⟩
    exact ⟨scale, values ▸ unused, distinct⟩
  · rintro ⟨scale, unused, distinct⟩
    exact ⟨scale, values ▸ unused, distinct⟩

namespace Provided

variable {s : Store} {seed : Seed}

theorem after (h : Provided s seed) (later : List (Moment × Operation)) :
    Provided (s.run later) seed where
  consistent := consistent_run h.consistent later
  phases some_names := phases_ne_run (h.phases some_names) later
  impactTypes := h.impactTypes
  severities := h.severities

/-- Phases and impact types stop no provisioning but the first. -/
theorem run_ok_iff (h : Provided s seed) {draw : Nat → Uuid}
    (fresh : Fresh s draw 0 seed.impactTypes.length) :
    (run draw s seed).1 = .ok () ↔ Takes s (lacking s.hasSeverity seed.severities) := by
  have types_went := provideImpactTypes_ok h.consistent h.impactTypes fresh
  have next := (provideImpactTypes_addsWords draw s seed.impactTypes).consistent h.consistent
  rw [run, providePhases_of_phases h.consistent h.phases]
  change (andThen (provideImpactTypes draw s seed.impactTypes) _).1 = _ ↔ _
  obtain ⟨table, left⟩ := provideImpactTypes_store draw s seed.impactTypes
  have same : (provideImpactTypes draw s seed.impactTypes).2.severities = s.severities := by
    rw [left]
  rw [andThen_ok_iff, and_iff_right types_went, provideSeverities_ok_iff next h.severities,
    takes_congr same]

theorem run_ok_of_names (h : Provided s seed) {draw : Nat → Uuid}
    (fresh : Fresh s draw 0 seed.impactTypes.length)
    (named : ∀ entry ∈ seed.severities, s.hasSeverity entry.displayName = true) :
    (run draw s seed).1 = .ok () := by
  rw [h.run_ok_iff fresh, lacking_of_known named]
  exact ⟨nofun, nofun, List.nodup_nil⟩

end Provided

/-- A provisioning went through, operations followed, and the same seed is provisioned again with
identifiers that are fresh by then. It goes through exactly if the severities whose names are gone
can be created under the values of the seed: on the scale, none of them in use and no two the same.
That is so if every name is still there, as it is if no operation deleted or renamed a severity. -/
theorem second_provisioning_ok_iff {s : Store} (reachable : s.Reachable) {draw again : Nat → Uuid}
    {seed : Seed} (went : (run draw s seed).1 = .ok ()) (later : List (Moment × Operation))
    (fresh : Fresh ((run draw s seed).2.run later) again 0 seed.impactTypes.length) :
    let next := (run draw s seed).2.run later
    ((run again next seed).1 = .ok () ↔ Takes next (lacking next.hasSeverity seed.severities)) ∧
      ((∀ entry ∈ seed.severities, next.hasSeverity entry.displayName = true) →
        (run again next seed).1 = .ok ()) ∧
      ((∀ step ∈ later, step.2.KeepsNames) → (run again next seed).1 = .ok ()) := by
  intro next
  obtain ⟨operations, rfl⟩ := reachable
  obtain ⟨provided, named⟩ := provided_run (consistent_run .empty operations) went
  have still := provided.after later
  refine ⟨still.run_ok_iff fresh, still.run_ok_of_names fresh, fun keep => ?_⟩
  exact still.run_ok_of_names fresh
    fun entry member => hasSeverity_run keep (named entry member)

/-- A vocabulary of one phase, one impact type and one severity. -/
def smallSeed : Seed := ⟨["Open"], [⟨"Down", ""⟩], [⟨"minor", 20⟩]⟩

/-- A severity that gets another value keeps its name, and its old value may go to another one. -/
theorem second_provisioning_ok_revalued :
    let later : List (Moment × Operation) :=
      [(momentOf 0, .updateSeverity "minor" ⟨"minor", 30⟩),
        (momentOf 0, .createSeverity ⟨"low", 20⟩)]
    let next := (run (momentOf 1).draw empty smallSeed).2.run later
    empty.Reachable ∧ (run (momentOf 1).draw empty smallSeed).1 = .ok () ∧
      Fresh next (momentOf 2).draw 0 smallSeed.impactTypes.length ∧
      next.hasSeverity "minor" = true ∧ (run (momentOf 2).draw next smallSeed).1 = .ok () := by
  intro later next
  have reachable : empty.Reachable := ⟨[], rfl⟩
  have went : (run (momentOf 1).draw empty smallSeed).1 = .ok () := by decide +kernel
  have fresh : Fresh next (momentOf 2).draw 0 smallSeed.impactTypes.length := by
    refine ⟨fun k _ _ => ?_, fun j k _ before k_lt => ?_⟩
    · exact (by decide +kernel : next.hasImpactType (Uuid.ofNat 2) = false)
    · have one : k < 1 := k_lt
      omega
  have named : next.hasSeverity "minor" = true := by decide +kernel
  obtain ⟨-, by_names, -⟩ := second_provisioning_ok_iff reachable went later fresh
  exact ⟨reachable, went, fresh, named, by_names (List.forall_mem_singleton.2 named)⟩

/-- A severity that keeps its value under another name stops the next provisioning. -/
theorem second_provisioning_stopped :
    ¬ ∀ (s : Store) (draw again : Nat → Uuid) (seed : Seed) (later : List (Moment × Operation)),
      s.Reachable → (run draw s seed).1 = .ok () →
      Fresh ((run draw s seed).2.run later) again 0 seed.impactTypes.length →
      (run again ((run draw s seed).2.run later) seed).1 = .ok () := by
  intro claimed
  let seed : Seed := ⟨[], [], [⟨"minor", 20⟩]⟩
  let later : List (Moment × Operation) := [(momentOf 0, .updateSeverity "minor" ⟨"low", 20⟩)]
  have fresh : Fresh ((run (momentOf 1).draw empty seed).2.run later) (momentOf 2).draw 0
      seed.impactTypes.length :=
    ⟨fun k _ k_lt => absurd k_lt (Nat.not_lt_zero k),
      fun j k _ _ k_lt => absurd k_lt (Nat.not_lt_zero k)⟩
  have went := claimed empty (momentOf 1).draw (momentOf 2).draw seed later ⟨[], rfl⟩ (by decide)
    fresh
  have stopped : (run (momentOf 2).draw ((run (momentOf 1).draw empty seed).2.run later) seed).1 =
      .error ⟨.createSeverity "minor",
        .failed "create_severity" "minor" (.unique ["severities.value"])⟩ := by decide
  rw [stopped] at went
  cases went

end Provision

end StatusPage
