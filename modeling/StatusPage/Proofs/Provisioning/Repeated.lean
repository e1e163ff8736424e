import Mathlib
import StatusPage.Proofs.Provisioning.Additions

/-!
# The same provisioning twice

What a provisioning wrote, a second one with the same seed passes over, and where the first one
stopped the second one stops again. So it answers the same and writes nothing, whether the first one
went through or not (`provisioning_idempotent`). The second one draws no identifier that matters,
and of the first one only those have to be fresh that it may draw: one for each entry with a new
name.
-/

namespace StatusPage

open Text Store

/-- A name that cannot be seen is refused before the tables and the identifier are looked at. -/
theorem Store.createImpactType_of_invisible {input : NewImpactType}
    (invisible : ¬ Visible input.displayName) :
    ∃ error, ∀ (s : Store) (id : Uuid), s.createImpactType id input = .fail s (.refused error) := by
  cases checked : input.validate with
  | ok _ => exact absurd (NewImpactType.validate_ok_iff.1 checked) invisible
  | error error =>
    refine ⟨error, fun s id => ?_⟩
    rw [createImpactType, checked]

namespace Provision

/-! ## Each part again -/

section ImpactTypes

variable {draw again : Nat → Uuid} {present named : List String}

/-- The names that the first round found or gave are passed over in the second round, and the entry
that stopped the first round stops the second. -/
theorem addImpactTypes_again {drawn last : Nat} {s : Store} {inputs : List NewImpactType}
    (fresh : Fresh s draw drawn last)
    (enough : drawn + (inputs.filter (·.displayName ∉ present)).length ≤ last)
    (known : ∀ name ∈ present, name ∈ named)
    (added : ∀ name, (addImpactTypes draw present drawn s inputs).2.typesNamed name ≠ 0 →
      name ∈ named)
    (visible : ∀ name ∈ named, Visible name) (next : Store) (k : Nat) :
    addImpactTypes again named k next inputs =
      ((addImpactTypes draw present drawn s inputs).1, next) := by
  induction inputs generalizing drawn s with
  | nil => rfl
  | cons input rest ih =>
    by_cases old : input.displayName ∈ present
    · rw [List.filter_cons_of_neg (by simpa using old)] at enough
      rw [addImpactTypes_of_known old] at added ⊢
      rw [addImpactTypes_of_known (known _ old)]
      exact ih fresh enough added
    · rw [List.filter_cons_of_pos (by simpa using old), List.length_cons] at enough
      by_cases seen : Visible input.displayName
      · have created := createImpactType_of_fresh seen (fresh.unused drawn le_rfl (by omega))
        rw [addImpactTypes_of_created old created] at added ⊢
        -- The impact type that was created is there at the end, whatever comes after it.
        have there : input.displayName ∈ named := by
          apply added
          obtain ⟨-, others, -, -, rows, -⟩ := addImpactTypes_rows draw present (drawn + 1) { s with
            impactTypes := s.impactTypes.insert
              ⟨some (draw drawn).text, input.displayName, input.description⟩ } rest
          rw [typesNamed_append rows, typesNamed, Table.rows_insert, List.countP_append]
          simp
        rw [addImpactTypes_of_known there]
        exact ih (fresh.insert _ _) (by omega) added
      · obtain ⟨error, refused⟩ := createImpactType_of_invisible seen
        have absent : input.displayName ∉ named := fun member => seen (visible _ member)
        rw [addImpactTypes_of_failed old (refused s _),
          addImpactTypes_of_failed absent (refused next _)]

/-- A second round over the impact types that the first one left answers as the first one did. -/
theorem provideImpactTypes_again {s next : Store} (h : s.Consistent) (h_next : next.Consistent)
    {inputs : List NewImpactType}
    (fresh : Fresh s draw 0 (s.newTypes inputs).length)
    (left : next.impactTypes = (provideImpactTypes draw s inputs).2.impactTypes) :
    provideImpactTypes again next inputs = ((provideImpactTypes draw s inputs).1, next) := by
  obtain ⟨listed, answer, names⟩ := h.exists_listImpactTypes
  obtain ⟨listed_next, answer_next, names_next⟩ := h_next.exists_listImpactTypes
  rw [provideImpactTypes_of_listed answer] at left ⊢
  rw [provideImpactTypes_of_listed answer_next]
  have counts := typesNamed_congr left
  apply addImpactTypes_again fresh
  · rw [filter_not_listed names, Nat.zero_add]
  · intro name old
    obtain ⟨-, created, -, -, rows, -⟩ :=
      addImpactTypes_rows draw (listed.map (·.displayName)) 0 s inputs
    rw [names_next, counts, typesNamed_append rows]
    exact fun zero => (names name).1 old (Nat.add_eq_zero_iff.1 zero).1
  · intro name there
    rw [names_next, counts]
    exact there
  · intro name member
    exact h_next.visible_of_typesNamed ((names_next name).1 member)

end ImpactTypes

/-- An entry that was passed over is passed over again, one that was created is passed over, and one
that was refused is refused by the same store. -/
theorem provideSeverities_again {s : Store} (h : s.Consistent) (seeds : List SeveritySeed) :
    provideSeverities (provideSeverities s seeds).2 seeds = provideSeverities s seeds := by
  induction seeds generalizing s with
  | nil => rfl
  | cons seed rest ih =>
    cases named : s.hasSeverity seed.displayName with
    | true =>
      have added := provideSeverities_addsWords s rest
      rw [provideSeverities_of_known h named,
        provideSeverities_of_known (added.consistent h) (added.hasSeverity named)]
      exact ih h
    | false =>
      by_cases fits : Visible seed.displayName ∧ (0 ≤ seed.value ∧ seed.value ≤ 100) ∧
          s.usesValue seed.value = false
      · obtain ⟨visible, scale, unused⟩ := fits
        have next := consistent_withSeverity h named visible scale unused
        have added := provideSeverities_addsWords (s.withSeverity seed.onScale) rest
        have created : (s.withSeverity seed.onScale).hasSeverity seed.displayName = true := by
          rw [hasSeverity_withSeverity]
          simp [SeveritySeed.onScale]
        rw [provideSeverities_of_added named visible scale unused,
          provideSeverities_of_known (added.consistent next) (added.hasSeverity created)]
        exact ih next
      · obtain ⟨stop, -, stopped⟩ := provideSeverities_of_refused named fits
        rw [stopped rest]
        exact stopped rest

/-! ## All parts again -/

section

variable {s : Store} (h : s.Consistent) {draw : Nat → Uuid} (again : Nat → Uuid) {seed : Seed}

include h

/-- Once the phases went through, a second provisioning answers as the first one did up to the
severities, if it finds the phases and impact types that the first one left. -/
theorem run_again_eq {next : Store} (h_next : next.Consistent)
    (fresh : Fresh s draw 0 (s.newTypes seed.impactTypes).length)
    (went : (providePhases s seed.phases).1 = .ok ())
    (phases : next.phases = (providePhases s seed.phases).2.phases)
    (types : next.impactTypes = (provideImpactTypes draw (providePhases s seed.phases).2
      seed.impactTypes).2.impactTypes) :
    run again next seed =
      andThen ((provideImpactTypes draw (providePhases s seed.phases).2 seed.impactTypes).1, next)
        fun last => provideSeverities last seed.severities := by
  have first := consistent_providePhases h seed.phases
  have phases_again : providePhases next seed.phases = (.ok (), next) := by
    apply providePhases_of_phases h_next
    intro some_names
    rw [phases]
    exact phases_ne_of_providePhases some_names went
  obtain ⟨table, left⟩ := exists_providePhases_store s seed.phases
  have same : (providePhases s seed.phases).2.impactTypes = s.impactTypes := by rw [left]
  have fresh_too : Fresh (providePhases s seed.phases).2 draw 0
      ((providePhases s seed.phases).2.newTypes seed.impactTypes).length := by
    rw [newTypes_congr same, left]
    exact ⟨fresh.unused, fresh.distinct⟩
  rw [run, phases_again, ← provideImpactTypes_again first h_next fresh_too types]
  rfl

end

/-- A provisioning whose identifiers are fresh and a second one with the same seed answer the same,
and the second one leaves the store as it is. It is so whether they go through or stop, and where.
-/
theorem provisioning_idempotent {s : Store} (reachable : s.Reachable) {draw : Nat → Uuid}
    {seed : Seed} (fresh : Fresh s draw 0 (s.newTypes seed.impactTypes).length)
    (again : Nat → Uuid) : run again (run draw s seed).2 seed = run draw s seed := by
  obtain ⟨operations, rfl⟩ := reachable
  have h : (empty.run operations).Consistent := consistent_run .empty operations
  have first := consistent_providePhases h seed.phases
  generalize empty.run operations = s at h first fresh ⊢
  have second := (provideImpactTypes_addsWords draw _ seed.impactTypes).consistent first
  obtain ⟨types, added⟩ :=
    provideImpactTypes_store draw (providePhases s seed.phases).2 seed.impactTypes
  rcases run_cases draw s seed with ⟨stop, stopped, ran⟩ | ⟨went, stop, stopped, ran⟩ |
    ⟨went, types_went, ran⟩
  · rw [ran, (providePhases_of_error stopped).2]
    have stopped_again := andThen_of_error stopped fun next =>
      andThen (provideImpactTypes again next seed.impactTypes) fun last =>
        provideSeverities last seed.severities
    rw [(providePhases_of_error stopped).2] at stopped_again
    exact stopped_again
  · rw [ran, run_again_eq h again second fresh went (by rw [added]) rfl]
    exact andThen_of_error stopped _
  · obtain ⟨severities, left⟩ := provideSeverities_store
      (provideImpactTypes draw (providePhases s seed.phases).2 seed.impactTypes).2 seed.severities
    have third := (provideSeverities_addsWords _ seed.severities).consistent second
    rw [ran, run_again_eq h again third fresh went (by rw [left, added]) (by rw [left]), types_went]
    exact provideSeverities_again second seed.severities

/-- A vocabulary with one name twice and one value twice. -/
def clashingSeed : Seed :=
  ⟨["Open"], [⟨"Down", ""⟩, ⟨"Down", ""⟩], [⟨"minor", 20⟩, ⟨"low", 20⟩, ⟨"high", 200⟩]⟩

/-- The value that is there twice stops every start at the same entry. -/
theorem provisioning_idempotent_clashing :
    let draw := fun k => Uuid.ofNat (10 + k)
    let stop : Stop := ⟨.createSeverity "low",
      .failed "create_severity" "low" (.unique ["severities.value"])⟩
    empty.Reachable ∧
      Fresh empty draw 0 (empty.newTypes clashingSeed.impactTypes).length ∧
      (run draw empty clashingSeed).1 = .error stop ∧
      run draw (run draw empty clashingSeed).2 clashingSeed =
        (.error stop, (run draw empty clashingSeed).2) := by
  intro draw stop
  have reachable : empty.Reachable := ⟨[], rfl⟩
  have fresh : Fresh empty draw 0 (empty.newTypes clashingSeed.impactTypes).length := by
    refine ⟨fun k _ _ => rfl, fun j k _ before k_lt => ?_⟩
    have two : k < 2 := k_lt
    obtain ⟨rfl, rfl⟩ : j = 0 ∧ k = 1 := by omega
    decide
  have stopped : (run draw empty clashingSeed).1 = .error stop := by decide +kernel
  refine ⟨reachable, fresh, stopped, ?_⟩
  rw [provisioning_idempotent reachable fresh draw, ← stopped]

end Provision

end StatusPage
