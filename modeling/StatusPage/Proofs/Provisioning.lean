import Mathlib
import StatusPage.Proofs.Store.Effect
import StatusPage.Provision

/-!
# Provisioning is a run

Provisioning only looks things up and creates what is missing. So the store that it leaves, whether
it goes through or stops, is one that a run of creations leads to: of the phases, if there are none
yet, and then of impact types and severities (`Provision.run_addsWords`). What every operation keeps
is therefore kept by provisioning too, and `Action` puts the two side by side: a history of a store
is a list of actions, and `exists_run_of_actions` says that no history leads anywhere that
operations do not lead to.
-/

namespace StatusPage

open Store

/-! ## The creations of a provisioning -/

/-- Whether an operation adds to the impact types or to the severities. -/
def Store.Operation.AddsWord : Operation → Prop
  | .createImpactType _ | .createSeverity _ => True
  | _ => False

theorem Store.run_append (s : Store) (first rest : List (Moment × Operation)) :
    s.run (first ++ rest) = (s.run first).run rest := by
  induction first generalizing s with
  | nil => rfl
  | cons step others ih => exact ih (step.2.perform step.1 s).store

namespace Provision

/-- A store is one that additions to the impact types and severities lead to. -/
def AddsWords (s next : Store) : Prop :=
  ∃ steps : List (Moment × Operation), (∀ step ∈ steps, step.2.AddsWord) ∧ next = s.run steps

namespace AddsWords

variable {s next last : Store}

theorem refl (s : Store) : AddsWords s s := ⟨[], by simp, rfl⟩

theorem trans (first : AddsWords s next) (rest : AddsWords next last) : AddsWords s last := by
  obtain ⟨earlier, earlier_words, rfl⟩ := first
  obtain ⟨later, later_words, rfl⟩ := rest
  refine ⟨earlier ++ later, ?_, (run_append s earlier later).symm⟩
  intro step member
  rcases List.mem_append.1 member with member | member
  · exact earlier_words step member
  · exact later_words step member

theorem createImpactType (s : Store) (id : Uuid) (input : NewImpactType) :
    AddsWords s (s.createImpactType id input).store :=
  ⟨[(⟨Instant.epoch, fun _ => id⟩, .createImpactType input)], by simp [Operation.AddsWord], rfl⟩

theorem createSeverity (s : Store) (input : Severity) :
    AddsWords s (s.createSeverity input).store :=
  ⟨[(⟨Instant.epoch, fun _ => default⟩, .createSeverity input)], by simp [Operation.AddsWord], rfl⟩

end AddsWords

theorem addImpactTypes_addsWords (draw : Nat → Uuid) (present : List String) (drawn : Nat)
    (s : Store) (inputs : List NewImpactType) :
    AddsWords s (addImpactTypes draw present drawn s inputs).2 := by
  induction inputs generalizing drawn s with
  | nil => exact .refl s
  | cons input rest ih =>
    unfold addImpactTypes
    split
    · exact ih drawn s
    · have created := AddsWords.createImpactType s (draw drawn) input
      dsimp only
      split
      · exact created
      · exact created.trans (ih _ _)

theorem provideImpactTypes_addsWords (draw : Nat → Uuid) (s : Store)
    (inputs : List NewImpactType) : AddsWords s (provideImpactTypes draw s inputs).2 := by
  unfold provideImpactTypes
  split
  · exact .refl s
  · split
    · exact .refl s
    · exact addImpactTypes_addsWords draw _ 0 s inputs

theorem provideSeverities_addsWords (s : Store) (seeds : List SeveritySeed) :
    AddsWords s (provideSeverities s seeds).2 := by
  induction seeds generalizing s with
  | nil => exact .refl s
  | cons seed rest ih =>
    unfold provideSeverities
    split
    · exact .refl s
    · exact ih s
    · split
      · exact .refl s
      · next severity _ =>
        have created := AddsWords.createSeverity s severity
        dsimp only
        split
        · exact created
        · exact created.trans (ih _)

/-- The phases of a seed are created only in a store without a generation. -/
theorem providePhases_store (s : Store) (names : List String) :
    (providePhases s names).2 =
      if names ≠ [] ∧ s.currentGeneration = .ok 0 then (s.createGeneration names).store else s := by
  unfold providePhases
  by_cases nothing : names = []
  · simp [nothing]
  · rw [if_neg nothing]
    cases current : s.currentGeneration with
    | error fault => simp
    | ok g => by_cases first : g = 0 <;> simp [nothing, first]

theorem andThen_of_ok {first : Result} (went : first.1 = .ok ()) (second : Store → Result) :
    andThen first second = second first.2 := by
  obtain ⟨answer, s⟩ := first
  cases went
  rfl

theorem andThen_of_error {first : Result} {stop : Stop} (stopped : first.1 = .error stop)
    (second : Store → Result) : andThen first second = (.error stop, first.2) := by
  obtain ⟨answer, s⟩ := first
  cases stopped
  rfl

theorem andThen_ok_iff {first : Result} {second : Store → Result} :
    (andThen first second).1 = .ok () ↔ first.1 = .ok () ∧ (second first.2).1 = .ok () := by
  obtain ⟨answer, s⟩ := first
  cases answer with
  | error stop => exact iff_of_false nofun fun both => nomatch both.1
  | ok _ => exact (and_iff_right rfl).symm

theorem andThen_addsWords {s : Store} {first : Result} {second : Store → Result}
    (earlier : AddsWords s first.2) (later : ∀ next, AddsWords next (second next).2) :
    AddsWords s (andThen first second).2 := by
  cases answered : first.1 with
  | error stop =>
    rw [andThen_of_error answered]
    exact earlier
  | ok _ =>
    rw [andThen_of_ok answered]
    exact earlier.trans (later first.2)

/-- After the phases, provisioning only adds to the impact types and severities. -/
theorem run_addsWords (draw : Nat → Uuid) (s : Store) (seed : Seed) :
    AddsWords (providePhases s seed.phases).2 (run draw s seed).2 := by
  refine andThen_addsWords (.refl _) fun next => ?_
  exact andThen_addsWords (provideImpactTypes_addsWords draw next seed.impactTypes) fun last =>
    provideSeverities_addsWords last seed.severities

/-! ## The tables that are written -/

theorem createImpactType_store (s : Store) (id : Uuid) (input : NewImpactType) :
    ∃ table, (s.createImpactType id input).store = { s with impactTypes := table } := by
  unfold Store.createImpactType
  split
  · exact ⟨_, rfl⟩
  · split <;> exact ⟨_, rfl⟩

theorem createSeverity_store (s : Store) (input : Severity) :
    ∃ table, (s.createSeverity input).store = { s with severities := table } := by
  unfold Store.createSeverity
  split
  · exact ⟨_, rfl⟩
  · split <;> exact ⟨_, rfl⟩

theorem exists_providePhases_store (s : Store) (names : List String) :
    ∃ table, (providePhases s names).2 = { s with phases := table } := by
  rw [providePhases_store]
  split
  · have done := createGeneration_effect ⟨Instant.epoch, fun _ => default⟩ s names
    generalize s.createGeneration names = o at done
    cases done <;> exact ⟨_, rfl⟩
  · exact ⟨_, rfl⟩

theorem addImpactTypes_store (draw : Nat → Uuid) (present : List String) (drawn : Nat) (s : Store)
    (inputs : List NewImpactType) :
    ∃ table, (addImpactTypes draw present drawn s inputs).2 = { s with impactTypes := table } := by
  induction inputs generalizing drawn s with
  | nil => exact ⟨_, rfl⟩
  | cons input rest ih =>
    obtain ⟨first, created⟩ := createImpactType_store s (draw drawn) input
    unfold addImpactTypes
    split
    · exact ih drawn s
    · dsimp only
      split
      · exact ⟨first, created⟩
      · obtain ⟨table, others⟩ := ih (drawn + 1) (s.createImpactType (draw drawn) input).store
        exact ⟨table, by rw [others, created]⟩

theorem provideImpactTypes_store (draw : Nat → Uuid) (s : Store) (inputs : List NewImpactType) :
    ∃ table, (provideImpactTypes draw s inputs).2 = { s with impactTypes := table } := by
  unfold provideImpactTypes
  split
  · exact ⟨_, rfl⟩
  · split
    · exact ⟨_, rfl⟩
    · exact addImpactTypes_store draw _ 0 s inputs

theorem provideSeverities_store (s : Store) (seeds : List SeveritySeed) :
    ∃ table, (provideSeverities s seeds).2 = { s with severities := table } := by
  induction seeds generalizing s with
  | nil => exact ⟨_, rfl⟩
  | cons seed rest ih =>
    unfold provideSeverities
    split
    · exact ⟨_, rfl⟩
    · exact ih s
    · split
      · exact ⟨_, rfl⟩
      · next severity _ =>
        obtain ⟨first, created⟩ := createSeverity_store s severity
        dsimp only
        split
        · exact ⟨first, created⟩
        · obtain ⟨table, others⟩ := ih (s.createSeverity severity).store
          exact ⟨table, by rw [others, created]⟩

/-- A provisioning ends with the phases or with the impact types if one of them stops it, and else
with the severities. -/
theorem run_cases (draw : Nat → Uuid) (s : Store) (seed : Seed) :
    let phases := providePhases s seed.phases
    let types := provideImpactTypes draw phases.2 seed.impactTypes
    (∃ stop, phases.1 = .error stop ∧ run draw s seed = (.error stop, phases.2)) ∨
      (phases.1 = .ok () ∧
        ∃ stop, types.1 = .error stop ∧ run draw s seed = (.error stop, types.2)) ∨
      (phases.1 = .ok () ∧ types.1 = .ok () ∧
        run draw s seed = provideSeverities types.2 seed.severities) := by
  intro phases types
  cases phases_answer : phases.1 with
  | error stop => exact Or.inl ⟨stop, rfl, andThen_of_error phases_answer _⟩
  | ok _ =>
    have next : run draw s seed =
        andThen types fun last => provideSeverities last seed.severities :=
      andThen_of_ok phases_answer _
    cases types_answer : types.1 with
    | error stop =>
      exact Or.inr (Or.inl ⟨rfl, stop, rfl, next.trans (andThen_of_error types_answer _)⟩)
    | ok _ => exact Or.inr (Or.inr ⟨rfl, rfl, next.trans (andThen_of_ok types_answer _)⟩)

/-- Whatever comes of a provisioning, it writes to the impact types and severities only, once it is
through with the phases. -/
theorem run_store (draw : Nat → Uuid) (s : Store) (seed : Seed) :
    ∃ types severities, (run draw s seed).2 = { (providePhases s seed.phases).2 with
      impactTypes := types, severities := severities } := by
  obtain ⟨types, added⟩ :=
    provideImpactTypes_store draw (providePhases s seed.phases).2 seed.impactTypes
  rcases run_cases draw s seed with ⟨stop, -, same⟩ | ⟨-, stop, -, same⟩ | ⟨-, -, same⟩
  · rw [same]
    exact ⟨_, _, rfl⟩
  · rw [same]
    exact ⟨types, _, added⟩
  · obtain ⟨severities, others⟩ := provideSeverities_store (provideImpactTypes draw
      (providePhases s seed.phases).2 seed.impactTypes).2 seed.severities
    rw [same, others, added]
    exact ⟨types, severities, rfl⟩

end Provision

namespace Store

/-! ## Actions -/

/-- What is done to a store: one call, or the provisioning of a vocabulary. -/
inductive Action where
  | call (operation : Operation)
  | provision (seed : Seed)

/-- The store that an action leaves. -/
def Action.perform (m : Moment) (s : Store) : Action → Store
  | .call operation => (operation.perform m s).store
  | .provision seed => (Provision.run m.draw s seed).2

/-- The store after actions one after the other, each at its moment. -/
def after (s : Store) : List (Moment × Action) → Store
  | [] => s
  | (m, action) :: rest => (action.perform m s).after rest

/-- What an action does, some operations do. -/
theorem Action.exists_run (m : Moment) (s : Store) (action : Action) :
    ∃ steps : List (Moment × Operation), action.perform m s = s.run steps := by
  cases action with
  | call operation => exact ⟨[(m, operation)], rfl⟩
  | provision seed =>
    obtain ⟨steps, -, same⟩ := Provision.run_addsWords m.draw s seed
    rw [Provision.providePhases_store] at same
    split at same
    · exact ⟨(m, .createGeneration seed.phases) :: steps, same⟩
    · exact ⟨steps, same⟩

/-- Every history of actions leads to a store that operations lead to. -/
theorem exists_run_of_actions (s : Store) (actions : List (Moment × Action)) :
    ∃ steps : List (Moment × Operation), s.after actions = s.run steps := by
  induction actions generalizing s with
  | nil => exact ⟨[], rfl⟩
  | cons step rest ih =>
    obtain ⟨m, action⟩ := step
    obtain ⟨first, first_same⟩ := action.exists_run m s
    obtain ⟨others, same⟩ := ih (action.perform m s)
    refine ⟨first ++ others, ?_⟩
    rw [run_append, ← first_same]
    exact same

end Store

end StatusPage
