import Mathlib
import StatusPage.Store.Table

/-!
# Rows of changed tables

What a write does to a property of all rows of a table, and to a column that a key is read from: an
insertion adds one row to look at and one key, a deletion takes rows out, and a change in place
replaces some rows by others with the same keys. No write gives a key twice if the new row does not
clash with the old ones.
-/

namespace StatusPage.Store

variable {α κ ν : Type} {t : Table α} {key : α → κ} {p : α → Prop}

/-! ## Properties of all rows -/

theorem forall_insert {row : α} (old : ∀ r ∈ t.rows, p r) (new : p row) :
    ∀ r ∈ (t.insert row).rows, p r := by
  intro r member
  rw [Table.rows_insert] at member
  rcases List.mem_append.1 member with member | member
  · exact old r member
  · rw [List.mem_singleton.1 member]
    exact new

theorem mem_filter_rows {row : α} {keep : α → Bool} :
    row ∈ (t.filter keep).rows ↔ row ∈ t.rows ∧ keep row = true := by
  rw [Table.rows_filter, List.mem_filter]

theorem forall_replace {c : α → Prop} [DecidablePred c] {new : α → α} (old : ∀ r ∈ t.rows, p r)
    (changed : ∀ r ∈ t.rows, c r → p (new r)) :
    ∀ r ∈ (t.map fun r => if c r then new r else r).rows, p r := by
  intro r member
  rw [Table.rows_map] at member
  obtain ⟨before, before_member, rfl⟩ := List.mem_map.1 member
  split
  · next hit => exact changed before before_member hit
  · exact old before before_member

/-! ## Keys -/

theorem keys_insert (t : Table α) (key : α → κ) (row : α) :
    (t.insert row).rows.map key = t.rows.map key ++ [key row] := by
  rw [Table.rows_insert, List.map_append, List.map_singleton]

theorem keys_filter_ne [DecidableEq κ] (t : Table α) (key : α → κ) (k : κ) :
    (t.filter fun row => key row ≠ k).rows.map key = (t.rows.map key).filter fun x => x ≠ k := by
  rw [Table.rows_filter, List.filter_map]
  rfl

theorem keys_replace {c : α → Prop} [DecidablePred c] {new : α → α}
    (same : ∀ r, c r → key (new r) = key r) :
    (t.map fun r => if c r then new r else r).rows.map key = t.rows.map key := by
  rw [Table.rows_map, List.map_map]
  apply List.map_congr_left
  intro r _
  rw [Function.comp_apply]
  split
  · next hit => exact same r hit
  · rfl

theorem nodup_keys_insert {row : α} (distinct : (t.rows.map key).Nodup)
    (fresh : ∀ r ∈ t.rows, key r ≠ key row) : ((t.insert row).rows.map key).Nodup := by
  rw [keys_insert, List.nodup_append]
  refine ⟨distinct, List.nodup_singleton _, ?_⟩
  intro k member other other_member
  obtain ⟨r, r_member, rfl⟩ := List.mem_map.1 member
  rw [List.mem_singleton.1 other_member]
  exact fresh r r_member

theorem nodup_keys_filter {rows : List α} (distinct : (rows.map key).Nodup) (keep : α → Bool) :
    ((rows.filter keep).map key).Nodup :=
  distinct.sublist (List.filter_sublist.map key)

/-- The rows of one key do not change when those of another go. -/
theorem filter_key_of_ne [DecidableEq κ] {k other : κ} (ne : other ≠ k) (rows : List α) :
    ((rows.filter fun row => key row ≠ other).filter fun row => key row == k) =
      rows.filter fun row => key row == k := by
  rw [List.filter_filter]
  apply List.filter_congr
  intro row _
  by_cases same : key row = k
  · simp [same, Ne.symm ne]
  · simp [same]

/-- One row in place of the one with a key. Every column without repetitions stays one that the new
row does not clash with in the other rows. -/
theorem nodup_replace [DecidableEq κ] {rows : List α} {value : α → ν} {k : κ} {new : α}
    (keys : (rows.map key).Nodup) (values : (rows.map value).Nodup)
    (fresh : ∀ row ∈ rows, key row ≠ k → value row ≠ value new) :
    ((rows.map fun row => if key row = k then new else row).map value).Nodup := by
  induction rows with
  | nil => exact List.nodup_nil
  | cons row rest ih =>
    simp only [List.map_cons, List.nodup_cons] at keys values
    have rest_fresh : ∀ other ∈ rest, key other ≠ k → value other ≠ value new :=
      fun other later => fresh other (List.mem_cons_of_mem _ later)
    simp only [List.map_cons, List.nodup_cons]
    refine ⟨?_, ih keys.2 values.2 rest_fresh⟩
    rw [List.map_map, List.mem_map]
    rintro ⟨other, later, same⟩
    have value_ne : value other ≠ value row :=
      fun equal => values.1 (List.mem_map.2 ⟨other, later, equal⟩)
    by_cases this_row : key row = k
    · have other_key : key other ≠ k :=
        fun equal => keys.1 (List.mem_map.2 ⟨other, later, equal.trans this_row.symm⟩)
      simp only [Function.comp_apply, if_neg other_key, if_pos this_row] at same
      exact rest_fresh other later other_key same
    · simp only [Function.comp_apply, if_neg this_row] at same
      by_cases that_row : key other = k
      · rw [if_pos that_row] at same
        exact fresh row List.mem_cons_self this_row same.symm
      · rw [if_neg that_row] at same
        exact value_ne same

/-! ## Rows that are looked for -/

section Find

variable {keep : α → Bool} {old : α}

/-- The first row of its kind is found once it is in. -/
theorem find?_insert_of_fresh {r : α} (fresh : t.rows.any keep = false) (hit : keep r = true) :
    (t.insert r).rows.find? keep = some r := by
  have before : t.rows.find? keep = none := by
    rw [← Option.not_isSome_iff_eq_none, List.isSome_find?, fresh]
    exact Bool.false_ne_true
  rw [Table.rows_insert, List.find?_append, before, Option.none_or, List.find?_singleton, hit]
  rfl

theorem find?_insert_of_other {r : α} (miss : keep r = false) :
    (t.insert r).rows.find? keep = t.rows.find? keep := by
  rw [Table.rows_insert, List.find?_append, List.find?_singleton, miss, if_neg Bool.false_ne_true,
    Option.or_none]

variable {c : α → Prop} [DecidablePred c] {f : α → α}

/-- The row that is looked for is found with its changes. -/
theorem find?_replace_self (found : t.rows.find? keep = some old)
    (looked : ∀ r, keep r = true ↔ c r) (kept : ∀ r, c r → keep (f r) = true) :
    (t.map fun r => if c r then f r else r).rows.find? keep = some (f old) := by
  have same : (keep ∘ fun r => if c r then f r else r) = keep := by
    funext r
    rw [Function.comp_apply]
    split
    · next hit => rw [kept r hit, (looked r).2 hit]
    · rfl
  have hit := (looked old).1 (List.find?_some found)
  rw [Table.rows_map, List.find?_map, same, found, Option.map_some, if_pos hit]

/-- Changes to rows that are not looked for, before and after, are not seen. -/
theorem find?_replace_of_other (miss : ∀ r, c r → keep r = false ∧ keep (f r) = false) :
    (t.map fun r => if c r then f r else r).rows.find? keep = t.rows.find? keep := by
  have same : (keep ∘ fun r => if c r then f r else r) = keep := by
    funext r
    rw [Function.comp_apply]
    split
    · next hit => rw [(miss r hit).1, (miss r hit).2]
    · rfl
  rw [Table.rows_map, List.find?_map, same]
  cases found : t.rows.find? keep with
  | none => rfl
  | some r =>
    have unchanged : ¬ c r := by
      intro hit
      have missed := (miss r hit).1
      rw [List.find?_some found] at missed
      cases missed
    rw [Option.map_some, if_neg unchanged]

end Find

/-! ## The rows of one key replaced -/

section Replaced

variable [DecidableEq κ] {k other : κ} {rows new : List α}

theorem filter_replaced_self (owned : ∀ r ∈ new, key r = k) :
    (((rows.filter fun row => key row ≠ k) ++ new).filter fun row => key row == k) = new := by
  have before : ((rows.filter fun row => key row ≠ k).filter fun row => key row == k) = [] := by
    apply List.filter_eq_nil_iff.2
    intro row member
    simpa using (List.mem_filter.1 member).2
  have after : (new.filter fun row => key row == k) = new := by
    apply List.filter_eq_self.2
    intro row member
    simpa using owned row member
  rw [List.filter_append, before, after, List.nil_append]

theorem filter_replaced_of_ne (ne : k ≠ other) (owned : ∀ r ∈ new, key r = k) :
    (((rows.filter fun row => key row ≠ k) ++ new).filter fun row => key row == other) =
      rows.filter fun row => key row == other := by
  have after : (new.filter fun row => key row == other) = [] := by
    apply List.filter_eq_nil_iff.2
    intro row member
    simpa [owned row member] using ne
  rw [List.filter_append, filter_key_of_ne ne, after, List.append_nil]

end Replaced

end StatusPage.Store
