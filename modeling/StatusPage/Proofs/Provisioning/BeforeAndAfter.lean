import Mathlib
import StatusPage.Proofs.Provisioning.Additions
import StatusPage.Proofs.Store.Entities

/-!
# Before and after a provisioning

`OnlyAdds` compares the store before a provisioning with the one that it leaves, whatever it
answers: all that was there is there with the same value, and what was not there comes from the
seed. `Fulfils` adds what a provisioning that went through promises: all that the seed names is
there. Both are read off the rows that are added, since a read of a key finds the first row that has
it and rows are only added at the end (`getImpactType_append`, `getSeverity_append`).
-/

namespace StatusPage

open Text Store

namespace Store

/-! ## Reads of added rows -/

/-- A generation that is listed has its number in the log. -/
theorem PhaseLog.exists_of_listPhases {s : Store} {log : List (List String)}
    (h : PhaseLog s.phases.rows log) {g : Int} {names : List String}
    (listed : s.listPhases (some g) = .ok names) :
    ∃ k : Nat, g = k + 1 ∧ log[k]? = some names := by
  by_cases below : g < 1
  · rw [h.listPhases_of_lt below] at listed
    cases listed
  · by_cases above : (log.length : Int) < g
    · obtain ⟨n, refused⟩ := h.listPhases_of_gt above
      rw [refused] at listed
      cases listed
    · obtain ⟨k, rfl⟩ : ∃ k : Nat, g = k + 1 := ⟨(g - 1).toNat, by omega⟩
      have found : log[k]? = some log[k] := List.getElem?_eq_getElem (by omega)
      have here := h.listPhases_of_found found
      rw [here, Except.ok.injEq] at listed
      exact ⟨k, rfl, by rw [found, listed]⟩

/-- An impact type is read as before, or it is one that was added at the end. -/
theorem getImpactType_append {s next : Store} {created : List ImpactType}
    (rows : next.impactTypes.rows = s.impactTypes.rows ++ created.map impactTypeRow) (id : Uuid) :
    next.getImpactType id =
      (s.getImpactType id).map fun t? => t?.or (created.find? (·.id == id)) := by
  have keys : ((fun row : ImpactTypeRow => row.id == some id.text) ∘ impactTypeRow) =
      fun t : ImpactType => t.id == id := by
    funext t
    rw [Function.comp_apply, impactTypeRow, Bool.eq_iff_iff, beq_iff_eq, beq_iff_eq,
      Option.some_inj]
    exact ⟨fun same => Uuid.text_injective same, congrArg Uuid.text⟩
  have added : ((created.map impactTypeRow).find? fun row => row.id == some id.text).map
      (fun row => (⟨id, row.displayName, row.description⟩ : ImpactType)) =
      created.find? (·.id == id) := by
    rw [List.find?_map, keys, Option.map_map]
    cases found : created.find? (·.id == id) with
    | none => rfl
    | some t =>
      have same : t.id = id := by simpa using List.find?_some found
      rw [Option.map_some, ← same]
      rfl
  rw [getImpactType, rows, List.find?_append, Option.map_or, added]
  rfl

/-- A severity is read as before, or it is one that was added at the end. -/
theorem Consistent.getSeverity_append {s next : Store} (h : s.Consistent)
    {created : List SeveritySeed}
    (rows : next.severities.rows =
      s.severities.rows ++ created.map (fun entry => severityRow entry.onScale)) (name : String) :
    next.getSeverity name = (s.getSeverity name).map fun v? =>
      v?.or ((created.find? (·.displayName == name)).map SeveritySeed.onScale) := by
  have found_in : (next.severities.rows.find? fun r => r.displayName == some name) =
      (s.severities.rows.find? fun r => r.displayName == some name).or
        ((created.find? (·.displayName == name)).map fun entry => severityRow entry.onScale) := by
    rw [rows, List.find?_append, List.find?_map]
    rfl
  cases found : s.severities.rows.find? fun r => r.displayName == some name with
  | some r =>
    obtain ⟨v, rfl, -⟩ := h.severityRows r (List.mem_of_find?_eq_some found)
    rw [found, Option.some_or] at found_in
    rw [getSeverity_of_found found, getSeverity_of_found found_in]
    rfl
  | none =>
    have new : s.getSeverity name = .ok none := by rw [getSeverity, found]
    rw [found, Option.none_or] at found_in
    rw [new]
    cases entry : created.find? (·.displayName == name) with
    | none =>
      rw [entry, Option.map_none] at found_in
      rw [getSeverity, found_in]
      rfl
    | some e =>
      rw [entry, Option.map_some] at found_in
      rw [getSeverity_of_found found_in]
      rfl

end Store

namespace Provision

/-! ## The first generation -/

/-- A store that had no generation has its first one. -/
structure Starts (s next : Store) (names : List String) : Prop where
  some_names : names ≠ []
  none_before : s.currentGeneration = .ok 0
  current : next.currentGeneration = .ok 1
  listed : next.listPhases (some 1) = .ok names

/-- The phases are left alone, or those of the seed become the first generation. -/
theorem run_phases {s : Store} (h : s.Consistent) (draw : Nat → Uuid) (seed : Seed) :
    (run draw s seed).2.phases.rows = s.phases.rows ∨ Starts s (run draw s seed).2 seed.phases := by
  obtain ⟨log, logged⟩ := h.phaseLog
  have next := logged.action ⟨Instant.epoch, draw⟩ (.provision seed)
  rw [Action.generations] at next
  split at next
  · next asked =>
    rw [logged.eq_nil_of_first asked.2.1, List.nil_append] at next
    have listed := next.listPhases_of_found (g := 0) rfl
    exact Or.inr ⟨asked.1, asked.2.1, next.currentGeneration_eq, listed⟩
  · rw [List.append_nil] at next
    exact Or.inl (next.rows_eq.trans logged.rows_eq.symm)

/-! ## What was there and what was added -/

/-- What was there is there with the same value, and what was not comes from a seed. -/
structure OnlyAdds (s next : Store) (seed : Seed) : Prop where
  components : next.components = s.components
  labels : next.labels = s.labels
  incidents : next.incidents = s.incidents
  impacts : next.impacts = s.impacts
  updates : next.updates = s.updates
  kept : ∀ subject entity, s.read subject = .ok (some entity) →
    next.read subject = .ok (some entity)
  generations : ∀ g names, s.listPhases (some g) = .ok names → next.listPhases (some g) = .ok names
  phases : next.phases.rows = s.phases.rows ∨ Starts s next seed.phases
  impactTypes : ∀ id t, next.getImpactType id = .ok (some t) →
    s.getImpactType id = .ok (some t) ∨
      s.getImpactType id = .ok none ∧ t.given ∈ seed.impactTypes
  /-- A new severity is that of the first entry of its name. -/
  severities : ∀ name v, next.getSeverity name = .ok (some v) →
    s.getSeverity name = .ok (some v) ∨
      s.getSeverity name = .ok none ∧ ∃ entry : SeveritySeed,
        seed.severities.find? (·.displayName == name) = some entry ∧ v.displayName = name ∧
        (v.value.toNat : Int) = entry.value

/-- What a seed names is there, and what was not there before is as the seed has it. -/
structure Fulfils (s next : Store) (seed : Seed) : Prop where
  phases : seed.phases ≠ [] → s.currentGeneration = .ok 0 → Starts s next seed.phases
  impactTypes : ∀ input ∈ seed.impactTypes, ∃ t, next.getImpactType t.id = .ok (some t) ∧
    t.displayName = input.displayName
  severities : ∀ entry ∈ seed.severities, ∃ v, next.getSeverity entry.displayName = .ok (some v)
  values : ∀ (name : String) (entry : SeveritySeed), s.getSeverity name = .ok none →
    seed.severities.find? (·.displayName == name) = some entry →
    ∃ v, next.getSeverity name = .ok (some v) ∧ (v.value.toNat : Int) = entry.value

/-- An entity that is found is found if others are added behind it. -/
theorem read_of_append {α : Type} {answer : Except Fault (Option α)} {wrap : α → Entity}
    {entity : Entity} (there : answer.map (Option.map wrap) = .ok (some entity))
    (added : Option α) :
    (answer.map fun a? => a?.or added).map (Option.map wrap) = .ok (some entity) := by
  cases answer with
  | error fault => cases there
  | ok a? =>
    cases a? with
    | none => cases there
    | some a => exact there

section

variable {s : Store} (h : s.Consistent) (draw : Nat → Uuid) (seed : Seed)

include h

theorem run_onlyAdds : OnlyAdds s (run draw s seed).2 seed := by
  obtain ⟨types, severities, last⟩ := run_store draw s seed
  obtain ⟨phases, first⟩ := exists_providePhases_store s seed.phases
  obtain ⟨through, created, reached, type_rows, given⟩ := run_impactTypes h draw seed
  obtain ⟨entries, front, scale, severity_rows, -⟩ := run_severities h draw seed
  have left : (run draw s seed).2 = { s with
      phases := phases, impactTypes := types, severities := severities } := by rw [last, first]
  refine ⟨by rw [left], by rw [left], by rw [left], by rw [left], by rw [left], ?_, ?_,
    run_phases h draw seed, ?_, ?_⟩
  · intro subject entity there
    cases subject with
    | impactType id =>
      rw [Store.read] at there ⊢
      rw [getImpactType_append type_rows]
      exact read_of_append there _
    | severity name =>
      rw [Store.read] at there ⊢
      rw [h.getSeverity_append severity_rows]
      exact read_of_append there _
    | _ =>
      rw [left]
      exact there
  · intro g names listed
    obtain ⟨log, logged⟩ := h.phaseLog
    obtain ⟨k, rfl, found⟩ := logged.exists_of_listPhases listed
    rcases run_phases h draw seed with same | starts
    · rw [← same] at logged
      exact logged.listPhases_of_found found
    · rw [logged.eq_nil_of_first starts.none_before] at found
      cases found
  · intro id t there
    rw [getImpactType_append type_rows] at there
    cases old : s.getImpactType id with
    | error fault => cases old
    | ok t? =>
      rw [old] at there
      cases t? with
      | some t' => exact Or.inl there
      | none =>
        refine Or.inr ⟨rfl, ?_⟩
        have member : t ∈ created := List.mem_of_find?_eq_some (Except.ok.inj there)
        have added : t.given ∈ created.map ImpactType.given := List.mem_map_of_mem member
        rw [given] at added
        exact reached.front.subset (List.mem_of_mem_filter added)
  · intro name v there
    rw [h.getSeverity_append severity_rows] at there
    cases old : s.getSeverity name with
    | error fault =>
      rw [old] at there
      cases there
    | ok v? =>
      rw [old] at there
      cases v? with
      | some v' => exact Or.inl there
      | none =>
        have new : s.hasSeverity name = false := by
          rw [← Bool.not_eq_true]
          intro known
          obtain ⟨-, v', found⟩ := h.exists_getSeverity known
          rw [old] at found
          cases found
        obtain ⟨entry, found, rfl⟩ := Option.map_eq_some_iff.1 (Except.ok.inj there)
        have same : entry.displayName = name := by simpa using List.find?_some found
        have value := SeveritySeed.value_onScale (scale entry (List.mem_of_find?_eq_some found))
        refine Or.inr ⟨rfl, entry, ?_, same, value⟩
        rw [← find?_lacking new]
        exact front.find?_eq_some found

theorem run_fulfils (went : (run draw s seed).1 = .ok ()) : Fulfils s (run draw s seed).2 seed := by
  obtain ⟨provided, named⟩ := provided_run h went
  have next := provided.consistent
  have severities : ∀ entry ∈ seed.severities, ∃ v,
      (run draw s seed).2.getSeverity entry.displayName = .ok (some v) :=
    fun entry member => (next.exists_getSeverity (named entry member)).2
  refine ⟨?_, ?_, severities, ?_⟩
  · intro some_names first
    rcases run_phases h draw seed with same | starts
    · obtain ⟨log, logged⟩ := h.phaseLog
      have nothing := logged.rows_eq
      rw [logged.eq_nil_of_first first, ← same] at nothing
      exact absurd nothing (provided.phases some_names)
    · exact starts
  · intro input member
    obtain ⟨through, reached, counts⟩ := typesNamed_run h draw seed
    rw [went] at reached
    have all : through = seed.impactTypes := reached
    have some_type : (run draw s seed).2.typesNamed input.displayName ≠ 0 := by
      rw [counts, all]
      split
      · exact (List.count_pos_iff.2 (List.mem_map_of_mem member)).ne'
      · assumption
    obtain ⟨listed, answer, names⟩ := next.exists_listImpactTypes
    obtain ⟨listed', answer', complete⟩ := next.listImpactTypes_complete
    rw [answer, Except.ok.injEq] at answer'
    obtain ⟨t, t_member, same⟩ := List.mem_map.1 ((names _).2 some_type)
    exact ⟨t, (complete.mem_iff t).1 (answer' ▸ t_member), same⟩
  · intro name entry old found
    have same : entry.displayName = name := by simpa using List.find?_some found
    obtain ⟨v, read⟩ := severities entry (List.mem_of_find?_eq_some found)
    rw [same] at read
    rcases (run_onlyAdds h draw seed).severities name v read with kept | ⟨-, other, first, -, value⟩
    · rw [old] at kept
      cases kept
    · rw [found, Option.some_inj] at first
      exact ⟨v, read, first ▸ value⟩

end

/-- Whatever provisioning answers, all that was there is there with the same value, and only the
phases of the first generation, impact types and severities of the seed are added. If it goes
through, then all that the seed names is there: the phases as the first generation if there was
none, and a severity with the value of its first entry if there was none of the name. -/
theorem provisioning_only_adds {s : Store} (reachable : s.Reachable) (draw : Nat → Uuid)
    (seed : Seed) :
    OnlyAdds s (run draw s seed).2 seed ∧
      ((run draw s seed).1 = .ok () → Fulfils s (run draw s seed).2 seed) := by
  obtain ⟨operations, rfl⟩ := reachable
  have consistent : (empty.run operations).Consistent := consistent_run .empty operations
  exact ⟨run_onlyAdds consistent draw seed, run_fulfils consistent draw seed⟩

/-- A component that was there is there with its name, the phases become the first generation, and a
severity gets the value of its first entry. -/
theorem provisioning_only_adds_to_service :
    let s := empty.run [(momentOf 1, .createComponent ⟨"Service", ∅⟩),
      (momentOf 2, .createImpactType ⟨"Down", ""⟩)]
    let draw := fun k => Uuid.ofNat (10 + k)
    let next := (run draw s repeatingSeed).2
    s.Reachable ∧ (run draw s repeatingSeed).1 = .ok () ∧
      next.read (.component (Uuid.ofNat 1)) =
        .ok (some (.component ⟨Uuid.ofNat 1, "Service", ∅⟩)) ∧
      next.listPhases (some 1) = .ok ["Open"] ∧
      ∃ v, next.getSeverity "minor" = .ok (some v) ∧ (v.value.toNat : Int) = 20 := by
  intro s draw next
  have reachable : s.Reachable := ⟨_, rfl⟩
  have went : (run draw s repeatingSeed).1 = .ok () := by decide +kernel
  have there : s.read (.component (Uuid.ofNat 1)) =
      .ok (some (.component ⟨Uuid.ofNat 1, "Service", ∅⟩)) := by decide +kernel
  have first : s.currentGeneration = .ok 0 := by decide +kernel
  have new : s.getSeverity "minor" = .ok none := by decide +kernel
  obtain ⟨adds, promised⟩ := provisioning_only_adds reachable draw repeatingSeed
  have fulfils := promised went
  exact ⟨reachable, went, adds.kept _ _ there, (fulfils.phases (by decide) first).listed,
    fulfils.values "minor" ⟨"minor", 20⟩ new rfl⟩

end Provision

end StatusPage
