import Mathlib
import StatusPage.Proofs.Store.Reading

/-!
# An impact seen from its two ends

A row of impacts in force is shown with its incident, with its component and in the question whether
the component is affected at all. `mem_affectedComponents` and `mem_affectingIncidents` trace the
two listings back to the same rows, and `mem_listComponents` does so for the listing of components
that are affected. So the three agree at every instant, whatever the rows say of it.
-/

namespace StatusPage.Store

open Text

/-! ## Rows of impacts -/

@[simp] theorem cell8_inj {m n : UInt8} : cell8 m = cell8 n ↔ m = n := by
  simp only [cell8, Cell.int.injEq, Nat.cast_inj]
  exact UInt8.toNat_inj

/-- A row tells the incident and the impact that it was written from. -/
theorem impactRow_inj {id other : Uuid} {a b : Impact} :
    impactRow id a = impactRow other b ↔ id = other ∧ a = b := by
  cases a
  cases b
  simp only [impactRow, ImpactRow.mk.injEq, Uuid.text_inj, cell8_inj, Impact.mk.injEq]

/-! ## Rows of components -/

/-- The row of a component with an identifier and a name. -/
def componentRow (p : Uuid × String) : ComponentRow := ⟨some p.1.text, p.2⟩

theorem componentRow_injective : Function.Injective componentRow := by
  rintro ⟨id, name⟩ ⟨other, other_name⟩ same
  simp only [componentRow, ComponentRow.mk.injEq, Option.some.injEq, Uuid.text_inj] at same
  rw [same.1, same.2]

/-- The key by which components are listed: the name, then the identifier. -/
def nameKey (p : Uuid × String) : String ×ₗ String := toLex (p.2, p.1.text)

theorem componentRow_le (p q : Uuid × String) :
    (componentRow p).le (componentRow q) = decide (nameKey p ≤ nameKey q) :=
  thenLe_eq textLe_iff textLe_iff

/-- The component with an identifier and a name, and with the labels that its rows give. -/
def componentOf (s : Store) (p : Uuid × String) : Component := ⟨p.1, p.2, s.labelsOf p.1.text⟩

/-- Without labels to have, a query for affected components asks for an impact in force. -/
theorem isAffected_iff {s : Store} {p : Uuid × String} {t : Option Instant} :
    (s.hasLabels (componentRow p) ∅ && (!true || s.isAffected (componentRow p) t)) = true ↔
      ∃ m ∈ s.activeImpacts t, m.component = p.1.text := by
  have no_labels : s.hasLabels (componentRow p) ∅ = true := rfl
  rw [no_labels, Bool.true_and, Bool.not_true, Bool.false_or, isAffected, List.any_eq_true]
  simp only [componentRow, beq_iff_eq, Option.some.injEq]

namespace Consistent

variable {s : Store} (h : s.Consistent)

include h

/-- Rows of impacts are read back, each once, as the impacts that they were written from. -/
theorem exists_readImpacts (other : ImpactRow → String) (otherId : Uuid → Impact → Uuid)
    (ends : ∀ id impact, other (impactRow id impact) = (otherId id impact).text)
    {rows : List ImpactRow} (kept : ∀ m ∈ rows, m ∈ s.impacts.rows) :
    ∃ (pairs : List (Uuid × Impact)) (found : List ImpactColumns),
      (∀ id impact, (id, impact) ∈ pairs ↔ impactRow id impact ∈ rows) ∧
        impactColumns other rows = .ok found ∧
        ∀ {β : Type} (f : Uuid × Uuid × UInt8 → β),
          found.mapM (fun c => c.values.map f) =
            .ok (pairs.map fun p => f (otherId p.1 p.2, p.2.impactType, p.2.severity)) := by
  have written : ∀ m ∈ rows.mergeSort (otherLe other), ∃ p : Uuid × Impact,
      m = impactRow p.1 p.2 ∧ True := by
    intro m member
    obtain ⟨id, impact, same, -⟩ := h.impactRows m (kept m (List.mem_mergeSort.1 member))
    exact ⟨(id, impact), same, trivial⟩
  obtain ⟨pairs, sorted, -⟩ := exists_map_eq written
  refine ⟨pairs, pairs.map fun p =>
    ⟨(otherId p.1 p.2).text, p.2.impactType.text, p.2.severity.toNat⟩, ?_, ?_, ?_⟩
  · intro id impact
    have in_rows : impactRow id impact ∈ rows ↔
        impactRow id impact ∈ rows.mergeSort (otherLe other) := List.mem_mergeSort.symm
    rw [in_rows, sorted, List.mem_map]
    constructor
    · intro member
      exact ⟨(id, impact), member, rfl⟩
    · intro in_pairs
      rcases in_pairs with ⟨p, member, same⟩
      obtain ⟨rfl, rfl⟩ := impactRow_inj.1 same
      exact member
  · rw [impactColumns, sorted, List.mapM_map]
    refine mapM_ok fun p _ => ?_
    rw [Function.comp_apply, ends]
    rfl
  · intro β f
    rw [List.mapM_map]
    refine mapM_ok fun p _ => ?_
    simp only [Function.comp_apply, ImpactColumns.values, readId_text, readSeverity_toNat, ok_bind]
    rfl

/-- The impacts that an incident is shown with are its rows in force. -/
theorem mem_affectedComponents {id : Uuid} (known : s.hasIncident id = true) (t : Option Instant) :
    ∃ listed, s.affectedComponents id t = .ok listed ∧
      ∀ impact, impact ∈ listed ↔ impactRow id impact ∈ s.activeImpacts t := by
  have kept : ∀ m ∈ (s.activeImpacts t).filter (fun m => m.incident == id.text),
      m ∈ s.impacts.rows := by
    intro m member
    exact List.mem_of_mem_filter (List.mem_of_mem_filter member)
  obtain ⟨pairs, found, member, columns, values⟩ :=
    h.exists_readImpacts (·.component) (fun _ impact => impact.component) (fun _ _ => rfl) kept
  refine ⟨pairs.map (·.2), ?_, ?_⟩
  · rw [affectedComponents, if_pos known, columns, during_ok, ok_bind]
    exact values _
  · intro impact
    rw [List.mem_map]
    constructor
    · intro listed
      rcases listed with ⟨p, p_member, rfl⟩
      have row := List.mem_filter.1 ((member p.1 p.2).1 p_member)
      have same : p.1 = id := Uuid.text_injective (by simpa [impactRow] using row.2)
      rw [← same]
      exact row.1
    · intro active
      exact ⟨(id, impact), (member id impact).2 (List.mem_filter.2 ⟨active, by simp [impactRow]⟩),
        rfl⟩

/-- The impacts that a component is shown with are its rows in force. -/
theorem mem_affectingIncidents {id : Uuid} (known : s.hasComponent id = true)
    (t : Option Instant) :
    ∃ listed, s.affectingIncidents id t = .ok listed ∧
      ∀ a : AffectingIncident, a ∈ listed ↔
        impactRow a.incident ⟨id, a.impactType, a.severity⟩ ∈ s.activeImpacts t := by
  have kept : ∀ m ∈ (s.activeImpacts t).filter (fun m => m.component == id.text),
      m ∈ s.impacts.rows := by
    intro m member
    exact List.mem_of_mem_filter (List.mem_of_mem_filter member)
  obtain ⟨pairs, found, member, columns, values⟩ :=
    h.exists_readImpacts (·.incident) (fun incident _ => incident) (fun _ _ => rfl) kept
  refine ⟨pairs.map fun p => ⟨p.1, p.2.impactType, p.2.severity⟩, ?_, ?_⟩
  · rw [affectingIncidents, if_pos known, columns, during_ok, ok_bind]
    exact values _
  · intro a
    rw [List.mem_map]
    constructor
    · intro listed
      rcases listed with ⟨p, p_member, rfl⟩
      have row := List.mem_filter.1 ((member p.1 p.2).1 p_member)
      have same : p.2.component = id := Uuid.text_injective (by simpa [impactRow] using row.2)
      rw [← same]
      exact row.1
    · intro active
      refine ⟨(a.incident, ⟨id, a.impactType, a.severity⟩), (member _ _).2 ?_, rfl⟩
      exact List.mem_filter.2 ⟨active, by simp [impactRow]⟩

/-! ## Components -/

/-- The component that is found under an identifier is the one whose row is there. -/
theorem getComponent_eq_some_iff {id : Uuid} {c : Component} :
    s.getComponent id = .ok (some c) ↔
      c.id = id ∧ componentRow (id, c.displayName) ∈ s.components.rows ∧
        c.labels = s.labelsOf id.text := by
  simp only [getComponent, Except.ok.injEq, Option.map_eq_some_iff]
  constructor
  · intro read
    rcases read with ⟨row, found, rfl⟩
    have key : row.id = some id.text := by simpa using List.find?_some found
    refine ⟨rfl, ?_, rfl⟩
    rw [componentRow, ← key]
    exact List.mem_of_find?_eq_some found
  · intro there
    rcases there with ⟨rfl, member, labels⟩
    refine ⟨componentRow (c.id, c.displayName), ?_, ?_⟩
    · exact find?_eq_of_nodup h.componentKeys.distinct member
    · rw [← labels]
      rfl

theorem mem_map_componentOf {pairs : List (Uuid × String)}
    (rows : s.components.rows = pairs.map componentRow) {keep : Uuid × String → Bool}
    {c : Component} :
    c ∈ (sortedBy nameKey (pairs.filter keep)).map s.componentOf ↔
      s.getComponent c.id = .ok (some c) ∧ keep (c.id, c.displayName) = true := by
  have there : (c.id, c.displayName) ∈ pairs ↔
      componentRow (c.id, c.displayName) ∈ s.components.rows := by
    rw [rows, List.mem_map_of_injective componentRow_injective]
  simp only [h.getComponent_eq_some_iff, ← there, List.mem_map, mem_sortedBy, List.mem_filter]
  constructor
  · rintro ⟨p, ⟨member, kept⟩, rfl⟩
    exact ⟨⟨trivial, member, rfl⟩, kept⟩
  · rintro ⟨⟨-, member, labels⟩, kept⟩
    refine ⟨(c.id, c.displayName), ⟨member, kept⟩, ?_⟩
    rw [componentOf, ← labels]

/-- The table of components is written from identifiers and names. -/
theorem exists_components :
    ∃ pairs : List (Uuid × String), s.components.rows = pairs.map componentRow := by
  have written : ∀ row ∈ s.components.rows, ∃ p : Uuid × String, row = componentRow p ∧ True := by
    intro row member
    obtain ⟨id, key⟩ := h.componentKeys.ids row.id (List.mem_map_of_mem member)
    exact ⟨(id, row.displayName), by rw [componentRow, ← key], trivial⟩
  obtain ⟨pairs, rows, -⟩ := exists_map_eq written
  exact ⟨pairs, rows⟩

omit h in
/-- A listing shows the components of the rows that its query asks for, by name and then by
identifier. -/
theorem listComponents_eq {pairs : List (Uuid × String)}
    (rows : s.components.rows = pairs.map componentRow) (query : ComponentQuery) :
    s.listComponents query = .ok ((sortedBy nameKey (pairs.filter fun p =>
      s.hasLabels (componentRow p) query.labels &&
        (!query.affected || s.isAffected (componentRow p) query.instant))).map s.componentOf) := by
  rw [listComponents, rows, List.filter_map, mergeSort_map componentRow_le]
  dsimp only
  have columns (shown : List (Uuid × String)) : (shown.map componentRow).mapM
      (fun c => (textColumn 0 "component_id" c.id).map fun id => (c, id)) =
      .ok (shown.map fun p => (componentRow p, p.1.text)) := by
    rw [List.mapM_map]
    exact mapM_ok fun _ _ => rfl
  rw [columns, during_ok, ok_bind, List.mapM_map]
  refine mapM_ok fun p _ => ?_
  simp only [Function.comp_apply, ComponentRow.component, readId_text]
  rfl

/-- The listing of affected components has those that some row of impacts in force names. -/
theorem mem_listComponents (t : Option Instant) :
    ∃ listed, s.listComponents ⟨∅, true, t⟩ = .ok listed ∧
      ∀ c, c ∈ listed ↔ s.getComponent c.id = .ok (some c) ∧
        ∃ m ∈ s.activeImpacts t, m.component = c.id.text := by
  obtain ⟨pairs, rows⟩ := h.exists_components
  refine ⟨_, listComponents_eq rows ⟨∅, true, t⟩, ?_⟩
  intro c
  rw [h.mem_map_componentOf rows]
  refine and_congr_right fun found => ?_
  simp only [isAffected_iff]

/-- A component is shown with some impact exactly if a row of impacts in force names it. -/
theorem affectingIncidents_ne_nil {id : Uuid} (known : s.hasComponent id = true)
    (t : Option Instant) :
    ∃ listed, s.affectingIncidents id t = .ok listed ∧
      (listed ≠ [] ↔ ∃ m ∈ s.activeImpacts t, m.component = id.text) := by
  obtain ⟨listed, answer, member⟩ := h.mem_affectingIncidents known t
  refine ⟨listed, answer, ?_⟩
  constructor
  · intro some_listed
    obtain ⟨a, a_member⟩ := List.exists_mem_of_ne_nil listed some_listed
    exact ⟨_, (member a).1 a_member, rfl⟩
  · rintro ⟨m, active, same⟩ none_listed
    obtain ⟨incident, impact, rfl, -⟩ := h.impactRows m (List.mem_of_mem_filter active)
    have component : impact.component = id := Uuid.text_injective same
    have shown : ⟨incident, impact.impactType, impact.severity⟩ ∈ listed := by
      rw [member, ← component]
      exact active
    rw [none_listed] at shown
    cases shown

/-- An incident is shown with an impact on a component exactly if the component is shown with it. -/
theorem affected_iff_affecting {i c : Uuid} (known : s.hasIncident i = true)
    (component : s.hasComponent c = true) (t : Option Instant) :
    ∃ affected affecting, s.affectedComponents i t = .ok affected ∧
      s.affectingIncidents c t = .ok affecting ∧
      ∀ (impactType : Uuid) (severity : UInt8),
        ⟨c, impactType, severity⟩ ∈ affected ↔ ⟨i, impactType, severity⟩ ∈ affecting := by
  obtain ⟨affected, affected_answer, affected_member⟩ := h.mem_affectedComponents known t
  obtain ⟨affecting, affecting_answer, affecting_member⟩ := h.mem_affectingIncidents component t
  refine ⟨affected, affecting, affected_answer, affecting_answer, ?_⟩
  intro impactType severity
  rw [affected_member, affecting_member]

theorem hasComponent_of_getComponent {id : Uuid} {c : Component}
    (found : s.getComponent id = .ok (some c)) : s.hasComponent id = true := by
  obtain ⟨-, row, -⟩ := h.getComponent_eq_some_iff.1 found
  exact hasComponent_iff.2 (List.mem_map.2 ⟨_, row, rfl⟩)

/-- The components that are listed as affected are those that are shown with some impact. -/
theorem listComponents_affected (t : Option Instant) :
    ∃ listed, s.listComponents ⟨∅, true, t⟩ = .ok listed ∧
      ∀ c, c ∈ listed ↔ s.getComponent c.id = .ok (some c) ∧
        ∃ affecting, s.affectingIncidents c.id t = .ok affecting ∧ affecting ≠ [] := by
  obtain ⟨listed, answer, member⟩ := h.mem_listComponents t
  refine ⟨listed, answer, fun c => (member c).trans (and_congr_right fun found => ?_)⟩
  obtain ⟨affecting, shown, some_shown⟩ :=
    h.affectingIncidents_ne_nil (h.hasComponent_of_getComponent found) t
  rw [← some_shown]
  constructor
  · intro nonempty
    exact ⟨affecting, shown, nonempty⟩
  · intro shown_other
    rcases shown_other with ⟨other, same, nonempty⟩
    rw [shown, Except.ok.injEq] at same
    rw [same]
    exact nonempty

end Consistent

end StatusPage.Store
