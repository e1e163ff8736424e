import Mathlib
import StatusPage.Labels

/-!
# Label sets and their pairs

A set made of pairs with different keys answers with these pairs and no others (`get?_ofList`), and
a set is the set of its own pairs (`ofList_entries`). So a label set can be kept as rows in any
order and put together again, and one set includes another if it has each of its pairs.
-/

namespace StatusPage.Labels

/-! ## Making a set of pairs -/

/-- A pair with the last key goes to the end. -/
theorem insertPair_of_last {key value : String} {pairs : List (String × String)}
    (last : ∀ p ∈ pairs, p.1 < key) : insertPair key value pairs = pairs ++ [(key, value)] := by
  induction pairs with
  | nil => rfl
  | cons p rest ih =>
    obtain ⟨first, others⟩ := List.forall_mem_cons.1 last
    have not_before : ¬ key < p.1 := String.lt_asymm first
    have other : key ≠ p.1 := fun same => String.lt_irrefl _ (same ▸ first)
    rw [insertPair, if_neg not_before, if_neg other, ih others, List.cons_append]

theorem entries_foldl_insert {labels : Labels} {pairs : List (String × String)}
    (ordered : (labels.entries ++ pairs).Pairwise fun a b => a.1 < b.1) :
    (pairs.foldl (fun labels p => labels.insert p.1 p.2) labels).entries =
      labels.entries ++ pairs := by
  induction pairs generalizing labels with
  | nil => rw [List.append_nil, List.foldl_nil]
  | cons p rest ih =>
    have before : ∀ q ∈ labels.entries, q.1 < p.1 :=
      fun q member => (List.pairwise_append.1 ordered).2.2 q member p List.mem_cons_self
    have inserted : (labels.insert p.1 p.2).entries = labels.entries ++ [p] :=
      insertPair_of_last before
    have moved : labels.entries ++ p :: rest = (labels.insert p.1 p.2).entries ++ rest := by
      rw [inserted, List.append_assoc, List.singleton_append]
    rw [moved] at ordered ⊢
    exact ih ordered

theorem eq_of_entries {a b : Labels} (same : a.entries = b.entries) : a = b := by
  cases a
  cases b
  cases same
  rfl

/-- A label set is the set of its pairs. -/
theorem ofList_entries (labels : Labels) : ofList labels.entries = labels := by
  have ordered : ((∅ : Labels).entries ++ labels.entries).Pairwise fun a b => a.1 < b.1 :=
    labels.ordered
  exact eq_of_entries (entries_foldl_insert ordered)

theorem nodup_keys (labels : Labels) : (labels.entries.map (·.1)).Nodup := by
  refine List.pairwise_map.2 (labels.ordered.imp ?_)
  intro p q before same
  exact String.lt_irrefl _ (same ▸ before)

theorem get?_foldl_insert {pairs : List (String × String)} (distinct : (pairs.map (·.1)).Nodup)
    (labels : Labels) (key value : String) :
    (pairs.foldl (fun labels p => labels.insert p.1 p.2) labels).get? key = some value ↔
      (key, value) ∈ pairs ∨ key ∉ pairs.map (·.1) ∧ labels.get? key = some value := by
  induction pairs generalizing labels with
  | nil => simp
  | cons p rest ih =>
    rw [List.map_cons, List.nodup_cons] at distinct
    rw [List.foldl_cons, ih distinct.2, get?_insert]
    by_cases first : key = p.1
    · subst first
      have later : (p.1, value) ∉ rest :=
        fun member => distinct.1 (List.mem_map.2 ⟨_, member, rfl⟩)
      simp [distinct.1, later, Prod.ext_iff, eq_comm]
    · simp [first, Prod.ext_iff]

/-- A set that is made of pairs with different keys has exactly those pairs. -/
theorem get?_ofList {pairs : List (String × String)} (distinct : (pairs.map (·.1)).Nodup)
    {key value : String} : (ofList pairs).get? key = some value ↔ (key, value) ∈ pairs := by
  rw [ofList, get?_foldl_insert distinct]
  simp

/-- The pairs of a set are what it answers. -/
theorem mem_entries_iff {labels : Labels} {key value : String} :
    (key, value) ∈ labels.entries ↔ labels.get? key = some value := by
  conv_rhs => rw [← labels.ofList_entries]
  exact (get?_ofList labels.nodup_keys).symm

/-- A set that is made of pairs with different keys keeps them all, in the order of the keys. -/
theorem entries_ofList_perm {pairs : List (String × String)}
    (distinct : (pairs.map (·.1)).Nodup) : (ofList pairs).entries.Perm pairs := by
  refine (List.perm_ext_iff_of_nodup (ofList pairs).nodup_keys.of_map distinct.of_map).2 ?_
  rintro ⟨key, value⟩
  rw [mem_entries_iff, get?_ofList distinct]

/-- Sets that answer alike are one set. -/
theorem eq_of_get? {a b : Labels}
    (same : ∀ key value, a.get? key = some value ↔ b.get? key = some value) : a = b := by
  have members : ∀ p, p ∈ a.entries ↔ p ∈ b.entries := by
    rintro ⟨key, value⟩
    rw [mem_entries_iff, mem_entries_iff, same]
  have perm : a.entries.Perm b.entries :=
    (List.perm_ext_iff_of_nodup a.nodup_keys.of_map b.nodup_keys.of_map).2 members
  exact eq_of_entries <| perm.eq_of_pairwise
    (fun _ _ _ _ before after => absurd after (String.lt_asymm before)) a.ordered b.ordered

/-! ## Inclusion -/

theorem includes_iff {labels query : Labels} :
    labels.includes query = true ↔
      ∀ key value, (key, value) ∈ query.entries → labels.get? key = some value := by
  simp [includes]

theorem includes_trans {a b c : Labels} (ab : a.includes b = true) (bc : b.includes c = true) :
    a.includes c = true := by
  rw [includes_iff] at *
  intro key value member
  exact ab key value (mem_entries_iff.2 (bc key value member))

/-- A set with one more pair includes the set. -/
theorem includes_insert {labels : Labels} {key : String} (fresh : labels.get? key = none)
    (value : String) : (labels.insert key value).includes labels = true := by
  rw [includes_iff]
  intro other known member
  have there := mem_entries_iff.1 member
  have differ : other ≠ key := by
    rintro rfl
    rw [fresh] at there
    cases there
  rw [get?_insert, if_neg differ, there]

end StatusPage.Labels
