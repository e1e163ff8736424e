import Mathlib
import StatusPage.Proofs.Store.Rows
import StatusPage.Proofs.UuidText
import StatusPage.Store.Incidents

/-!
# Columns of keys

Components, impact types and incidents are known by a column of identifiers. `KeyColumn` says that
such a column holds texts of identifiers, each at most once. An insertion adds a key to its column,
a deletion takes one out and a change in place leaves the column as it was.
-/

namespace StatusPage.Store

/-- A column of identifiers, no two of them the same. -/
structure KeyColumn (column : List (Option String)) : Prop where
  distinct : column.Nodup
  ids : ∀ key ∈ column, ∃ id : Uuid, key = some id.text

namespace KeyColumn

variable {column : List (Option String)}

theorem nil : KeyColumn [] := ⟨List.nodup_nil, by simp⟩

theorem append (h : KeyColumn column) {id : Uuid} (fresh : some id.text ∉ column) :
    KeyColumn (column ++ [some id.text]) := by
  refine ⟨?_, ?_⟩
  · rw [List.nodup_append]
    refine ⟨h.distinct, List.nodup_singleton _, ?_⟩
    intro key member other other_member same
    rw [same, List.mem_singleton.1 other_member] at member
    exact fresh member
  · intro key member
    rcases List.mem_append.1 member with member | member
    · exact h.ids key member
    · exact ⟨id, List.mem_singleton.1 member⟩

theorem filter (h : KeyColumn column) (keep : Option String → Bool) :
    KeyColumn (column.filter keep) :=
  ⟨h.distinct.filter keep, fun key member => h.ids key (List.mem_of_mem_filter member)⟩

end KeyColumn

/-! ## The three columns -/

/-- The column of identifiers of the components. -/
def componentKeys (s : Store) : List (Option String) := s.components.rows.map (·.id)

/-- The column of identifiers of the impact types. -/
def impactTypeKeys (s : Store) : List (Option String) := s.impactTypes.rows.map (·.id)

/-- The column of identifiers of the incidents. -/
def incidentKeys (s : Store) : List (Option String) := s.incidents.rows.map (·.id)

theorem hasComponent_iff {s : Store} {id : Uuid} :
    s.hasComponent id = true ↔ some id.text ∈ s.componentKeys := by
  simp [hasComponent, componentKeys]

theorem hasImpactType_iff {s : Store} {id : Uuid} :
    s.hasImpactType id = true ↔ some id.text ∈ s.impactTypeKeys := by
  simp [hasImpactType, impactTypeKeys]

theorem hasIncident_iff {s : Store} {id : Uuid} :
    s.hasIncident id = true ↔ some id.text ∈ s.incidentKeys := by
  simp [hasIncident, incidentKeys]

/-- The row that an incident is found by stands under its identifier. -/
theorem mem_of_findIncident {s : Store} {id : Uuid} {row : IncidentRow}
    (found : s.findIncident id = some row) : row ∈ s.incidents.rows ∧ row.id = some id.text :=
  ⟨List.mem_of_find?_eq_some found, by simpa using List.find?_some found⟩

theorem findIncident_isSome (s : Store) (id : Uuid) :
    (s.findIncident id).isSome = s.hasIncident id := by
  rw [findIncident, List.isSome_find?, hasIncident]

/-! ## The columns after a write -/

theorem componentKeys_insert (s : Store) (row : ComponentRow) :
    componentKeys { s with components := s.components.insert row } = s.componentKeys ++ [row.id] :=
  keys_insert _ _ _

theorem componentKeys_rename (s : Store) (id : Uuid) (name : String) :
    componentKeys { s with
      components := s.components.map fun c =>
        if c.id = some id.text then { c with displayName := name } else c } = s.componentKeys :=
  keys_replace fun _ _ => rfl

theorem impactTypeKeys_insert (s : Store) (row : ImpactTypeRow) :
    impactTypeKeys { s with impactTypes := s.impactTypes.insert row } =
      s.impactTypeKeys ++ [row.id] :=
  keys_insert _ _ _

theorem impactTypeKeys_change (s : Store) (id : Uuid) (name description : String) :
    impactTypeKeys { s with
      impactTypes := s.impactTypes.map fun t =>
        if t.id = some id.text then ⟨t.id, name, description⟩ else t } = s.impactTypeKeys :=
  keys_replace fun _ _ => rfl

theorem incidentKeys_insert (s : Store) (row : IncidentRow) :
    incidentKeys { s with incidents := s.incidents.insert row } = s.incidentKeys ++ [row.id] :=
  keys_insert _ _ _

theorem incidentKeys_replace (s : Store) (id : Uuid) (row : IncidentRow)
    (key : row.id = some id.text) :
    incidentKeys { s with
      incidents := s.incidents.map fun i => if i.id = some id.text then row else i } =
      s.incidentKeys :=
  keys_replace fun _ same => key.trans same.symm

end StatusPage.Store
