import Mathlib
import StatusPage.Proofs.Provisioning
import StatusPage.Proofs.Store.Deletions
import StatusPage.Proofs.Store.Listings

/-!
# The scale of severities

A severity is a name for a value, and a store has each name and each value once. `HasScale` says
what the listing of severities is worth: names and values in one-to-one correspondence, in ascending
order, none above 100. A severity that is given to a store has to be valid, has to have a place (an
update names the entry that it replaces), and must not share its name or its value with the entries
that stay. `Receives` is what comes of it, `severities_one_to_one` says that this holds of creations
and updates after every history.
-/

namespace StatusPage

open Text Store

/-- A severity with a name that can be seen and a value on the scale. -/
def Severity.Valid (v : Severity) : Prop :=
  Visible v.displayName ∧ v.value.toNat ≤ 100

/-- A severity has the name or the value of one of the given entries. -/
def Severity.Clashes (v : Severity) (entries : List Severity) : Prop :=
  ∃ w ∈ entries, w.displayName = v.displayName ∨ w.value = v.value

/-- A severity that is not valid is refused as an invalid argument, and any other is made. -/
theorem Severity.make_cases (input : Severity) :
    (Severity.make input.displayName input.value.toNat = .ok input ∧ input.Valid) ∨
      ∃ error, Severity.make input.displayName input.value.toNat = .error error ∧
        error.kind = .invalidArgument ∧ ¬ input.Valid := by
  by_cases valid : input.Valid
  · exact Or.inl ⟨Severity.make_ok_iff.2 ⟨valid.1, valid.2, rfl⟩, valid⟩
  · cases made : Severity.make input.displayName input.value.toNat with
    | ok severity =>
      obtain ⟨visible, scale, -⟩ := Severity.make_ok_iff.1 made
      exact absurd ⟨visible, scale⟩ valid
    | error error =>
      refine Or.inr ⟨error, rfl, ?_, valid⟩
      unfold Severity.make checkSeverity at made
      split at made
      · cases made
        rfl
      · split at made <;> cases made
        rfl

namespace Store

/-! ## The scale of a store -/

/-- The severities that a store lists are all that it has and are a one-to-one scale. -/
structure HasScale (s : Store) (scale : List Severity) : Prop where
  listed : s.listSeverities = .ok scale
  rows : s.severities.rows.Perm (scale.map severityRow)
  valid : ∀ v ∈ scale, v.Valid
  oneToOne : ∀ v ∈ scale, ∀ w ∈ scale, v.displayName = w.displayName ↔ v.value = w.value
  ascending : scale.Pairwise fun v w => v.value < w.value

theorem severityRow_injective : Function.Injective severityRow := by
  rintro ⟨name, value⟩ ⟨other_name, other_value⟩ same
  simp only [severityRow, SeverityRow.mk.injEq, Option.some.injEq, cell8_inj] at same
  rw [same.1, same.2]

/-- The severities of a consistent store are a scale. -/
theorem Consistent.exists_hasScale {s : Store} (h : s.Consistent) : ∃ scale, s.HasScale scale := by
  obtain ⟨vs, rows, valid⟩ := exists_map_eq h.severityRows
  have names := h.severityNames
  have values := h.severityValues
  rw [rows, List.map_map] at names values
  have listing := sortedBy_perm (fun v : Severity => v.value.toNat) vs
  refine ⟨_, listSeverities_eq rows, ?_, ?_, ?_, ?_⟩
  · rw [rows]
    exact (listing.map severityRow).symm
  · intro v member
    exact valid v (listing.mem_iff.1 member)
  · intro v v_member w w_member
    rw [mem_sortedBy] at v_member w_member
    constructor
    · intro same
      rw [List.inj_on_of_nodup_map names v_member w_member (congrArg some same)]
    · intro same
      rw [List.inj_on_of_nodup_map values v_member w_member (congrArg cell8 same)]
  · have order := pairwise_sortedBy (fun v : Severity => v.value.toNat)
      (nodup_orders values (fun n => .int n) fun _ => rfl)
    exact order.imp UInt8.lt_iff_toNat_lt.2

namespace HasScale

variable {s : Store} {scale : List Severity} (h : s.HasScale scale)

include h

theorem nodup_names : (scale.map (·.displayName)).Nodup := by
  rw [List.nodup_iff_pairwise_ne, List.pairwise_map]
  refine h.ascending.imp_of_mem ?_
  intro v w v_member w_member less same
  have values := (h.oneToOne v v_member w w_member).1 same
  exact absurd (values ▸ less) (UInt8.lt_irrefl _)

/-- There are 101 values for severities. -/
theorem length_le : scale.length ≤ 101 := by
  have distinct : (scale.map fun v => v.value.toNat).Nodup := by
    rw [List.nodup_iff_pairwise_ne, List.pairwise_map]
    refine h.ascending.imp ?_
    intro v w less
    exact (UInt8.lt_iff_toNat_lt.1 less).ne
  have inRange : (scale.map fun v => v.value.toNat) ⊆ List.range 101 := by
    intro n member
    obtain ⟨v, listed, rfl⟩ := List.mem_map.1 member
    exact List.mem_range.2 (Nat.lt_succ_of_le (h.valid v listed).2)
  have length := (List.subperm_of_subset distinct inRange).length_le
  rwa [List.length_map, List.length_range] at length

/-- A name is known exactly if an entry has it. -/
theorem any_name_iff {name : String} :
    (s.severities.rows.any fun r => r.displayName == some name) = true ↔
      ∃ v ∈ scale, v.displayName = name := by
  simp only [List.any_eq_true, h.rows.mem_iff, List.mem_map, severityRow, beq_iff_eq,
    exists_exists_and_eq_and, Option.some.injEq]

theorem filter_rows (name : String) :
    (s.severities.rows.filter fun r => r.displayName ≠ some name).Perm
      ((scale.filter fun v => v.displayName ≠ name).map severityRow) := by
  have kept := h.rows.filter fun r => decide (r.displayName ≠ some name)
  rw [List.filter_map] at kept
  have same : ((fun r : SeverityRow => decide (r.displayName ≠ some name)) ∘ severityRow) =
      fun v : Severity => decide (v.displayName ≠ name) := by
    funext v
    simp [severityRow]
  rwa [same] at kept

end HasScale

/-- A store with the rows of some severities has no others on its scale. -/
theorem Consistent.exists_hasScale_perm {s : Store} (h : s.Consistent) {vs : List Severity}
    (rows : s.severities.rows.Perm (vs.map severityRow)) :
    ∃ scale, s.HasScale scale ∧ scale.Perm vs := by
  obtain ⟨scale, has⟩ := h.exists_hasScale
  have same := has.rows.symm.trans rows
  exact ⟨scale, has, (List.map_perm_map_iff severityRow_injective).1 same⟩

/-! ## Clashes and replacements -/

/-- A clash is looked for among the values and then among the names. -/
theorem severityClash?_cases {rows : List SeverityRow} {others : List Severity}
    (written : rows.Perm (others.map severityRow)) (input : Severity) :
    (severityClash? rows input = none ∧ ¬ input.Clashes others) ∨
      ∃ column, severityClash? rows input = some (.unique [column]) ∧ input.Clashes others := by
  have values : (rows.any fun r => r.value == cell8 input.value) = true ↔
      ∃ w ∈ others, w.value = input.value := by
    simp only [List.any_eq_true, written.mem_iff, List.mem_map, severityRow, beq_iff_eq,
      exists_exists_and_eq_and, cell8_inj]
  have names : (rows.any fun r => r.displayName == some input.displayName) = true ↔
      ∃ w ∈ others, w.displayName = input.displayName := by
    simp only [List.any_eq_true, written.mem_iff, List.mem_map, severityRow, beq_iff_eq,
      exists_exists_and_eq_and, Option.some.injEq]
  unfold severityClash?
  split
  · next taken =>
    obtain ⟨w, member, same⟩ := values.1 taken
    exact Or.inr ⟨_, rfl, w, member, Or.inr same⟩
  · next untaken =>
    split
    · next taken =>
      obtain ⟨w, member, same⟩ := names.1 taken
      exact Or.inr ⟨_, rfl, w, member, Or.inl same⟩
    · next unnamed =>
      refine Or.inl ⟨rfl, ?_⟩
      rintro ⟨w, member, same | same⟩
      · exact unnamed (names.2 ⟨w, member, same⟩)
      · exact untaken (values.2 ⟨w, member, same⟩)

/-- Where one element has a key, replacing what has the key replaces that one. -/
theorem map_replace_perm {α κ : Type} [DecidableEq κ] {key : α → κ} {k : κ} {l : List α}
    (distinct : (l.map key).Nodup) (known : ∃ a ∈ l, key a = k) (new : α) :
    (l.map fun a => if key a = k then new else a).Perm (new :: l.filter fun a => key a ≠ k) := by
  induction l with
  | nil =>
    obtain ⟨a, member, -⟩ := known
    cases member
  | cons a rest ih =>
    rw [List.map_cons, List.nodup_cons] at distinct
    by_cases hit : key a = k
    · have others : ∀ b ∈ rest, key b ≠ k := by
        intro b member same
        exact distinct.1 (List.mem_map.2 ⟨b, member, same.trans hit.symm⟩)
      have kept : rest.filter (fun b => decide (key b ≠ k)) = rest :=
        List.filter_eq_self.2 fun b member => decide_eq_true (others b member)
      have unchanged : (rest.map fun b => if key b = k then new else b) = rest :=
        (List.map_congr_left fun b member => if_neg (others b member)).trans (List.map_id' rest)
      rw [List.map_cons, if_pos hit, unchanged, List.filter_cons_of_neg (by simpa using hit), kept]
    · obtain ⟨b, member, same⟩ := known
      have later : b ∈ rest := by
        rcases List.mem_cons.1 member with rfl | later
        · exact absurd same hit
        · exact later
      rw [List.map_cons, if_neg hit, List.filter_cons_of_pos (by simpa using hit)]
      exact ((ih distinct.2 ⟨b, later, same⟩).cons a).trans (.swap new a _)

/-! ## What comes of a severity that is given -/

/-- What a store makes of a severity that is given to it, beside the entries that stay: it is
refused as invalid, or else finds no place, or else clashes with an entry that stays, or else goes
in as it was given. -/
structure Receives (s : Store) (others : List Severity) (place : Prop) (input : Severity)
    (o : Outcome Severity) : Prop where
  invalid_iff : FailsAs s .invalidArgument o ↔ ¬ input.Valid
  notFound_iff : FailsAs s .notFound o ↔ input.Valid ∧ ¬ place
  conflict_iff : FailsAs s .conflict o ↔ input.Valid ∧ place ∧ input.Clashes others
  ok_iff : o.answer = .ok input ↔ input.Valid ∧ place ∧ ¬ input.Clashes others
  /-- Only the severities change, and they become the entries that stay and the given one. -/
  stored : o.answer = .ok input → o.store = { s with severities := o.store.severities } ∧
    ∃ scale, o.store.HasScale scale ∧ scale.Perm (input :: others)

section Outcomes

variable {s : Store} {others : List Severity} {place : Prop} {input : Severity} {fault : Fault}

theorem receives_of_invalid (invalid : ¬ input.Valid) (kind : fault.kind = .invalidArgument) :
    Receives s others place input (.fail s fault) where
  invalid_iff := failsAs_fail_iff.trans (iff_of_true kind invalid)
  notFound_iff := by
    rw [failsAs_fail_iff, kind]
    exact iff_of_false nofun fun both => invalid both.1
  conflict_iff := by
    rw [failsAs_fail_iff, kind]
    exact iff_of_false nofun fun both => invalid both.1
  ok_iff := iff_of_false nofun fun both => invalid both.1
  stored := nofun

theorem receives_of_missing (valid : input.Valid) (missing : ¬ place)
    (kind : fault.kind = .notFound) : Receives s others place input (.fail s fault) where
  invalid_iff := by
    rw [failsAs_fail_iff, kind]
    exact iff_of_false nofun fun invalid => invalid valid
  notFound_iff := failsAs_fail_iff.trans (iff_of_true kind ⟨valid, missing⟩)
  conflict_iff := by
    rw [failsAs_fail_iff, kind]
    exact iff_of_false nofun fun both => missing both.2.1
  ok_iff := iff_of_false nofun fun both => missing both.2.1
  stored := nofun

theorem receives_of_clash (valid : input.Valid) (there : place) (clash : input.Clashes others)
    (kind : fault.kind = .conflict) : Receives s others place input (.fail s fault) where
  invalid_iff := by
    rw [failsAs_fail_iff, kind]
    exact iff_of_false nofun fun invalid => invalid valid
  notFound_iff := by
    rw [failsAs_fail_iff, kind]
    exact iff_of_false nofun fun both => both.2 there
  conflict_iff := failsAs_fail_iff.trans (iff_of_true kind ⟨valid, there, clash⟩)
  ok_iff := iff_of_false nofun fun both => both.2.2 clash
  stored := nofun

theorem receives_of_free {table : Table SeverityRow} (valid : input.Valid) (there : place)
    (free : ¬ input.Clashes others) (next : Consistent { s with severities := table })
    (rows : table.rows.Perm ((input :: others).map severityRow)) :
    Receives s others place input ⟨.ok input, { s with severities := table }⟩ where
  invalid_iff := iff_of_false not_failsAs_ok fun invalid => invalid valid
  notFound_iff := iff_of_false not_failsAs_ok fun both => both.2 there
  conflict_iff := iff_of_false not_failsAs_ok fun both => free both.2.2
  ok_iff := iff_of_true rfl ⟨valid, there, free⟩
  stored := fun _ => ⟨rfl, next.exists_hasScale_perm rows⟩

end Outcomes

namespace HasScale

variable {s : Store} {scale : List Severity}

/-- A new severity has a place in every store. -/
theorem createSeverity_receives (h : s.HasScale scale) (consistent : s.Consistent)
    (input : Severity) : Receives s scale True input (s.createSeverity input) := by
  unfold createSeverity
  rcases Severity.make_cases input with ⟨made, valid⟩ | ⟨error, made, kind, invalid⟩
  · rw [made]
    dsimp only
    rcases severityClash?_cases h.rows input with ⟨free, no_clash⟩ | ⟨column, taken, clash⟩
    · rw [free]
      refine receives_of_free valid trivial no_clash
        (consistent.insertSeverity valid.1 valid.2 free) ?_
      rw [Table.rows_insert, List.map_cons]
      exact (List.perm_append_singleton _ _).trans (h.rows.cons _)
    · rw [taken]
      exact receives_of_clash valid trivial clash rfl
  · rw [made]
    exact receives_of_invalid invalid kind

/-- An update has a place if there is the severity that it names, and this one does not stay. -/
theorem updateSeverity_receives (h : s.HasScale scale) (consistent : s.Consistent) (name : String)
    (input : Severity) :
    Receives s (scale.filter fun v => v.displayName ≠ name) (∃ v ∈ scale, v.displayName = name)
      input (s.updateSeverity name input) := by
  unfold updateSeverity
  rcases Severity.make_cases input with ⟨made, valid⟩ | ⟨error, made, kind, invalid⟩
  · rw [made]
    dsimp only
    split
    · next there =>
      have known := h.any_name_iff.1 there
      rcases severityClash?_cases (h.filter_rows name) input with
        ⟨free, no_clash⟩ | ⟨column, taken, clash⟩
      · rw [free]
        refine receives_of_free valid known no_clash
          (consistent.changeSeverity valid.1 valid.2 free) ?_
        have replaced := (map_replace_perm h.nodup_names known input).map severityRow
        rw [Table.rows_map]
        refine ((h.rows.map _).trans (List.Perm.of_eq ?_)).trans replaced
        rw [List.map_map, List.map_map]
        apply List.map_congr_left
        intro v _
        simp only [Function.comp_apply, severityRow, Option.some.injEq]
        split <;> rfl
      · rw [taken]
        exact receives_of_clash valid known clash rfl
    · next absent =>
      exact receives_of_missing valid (fun known => absent (h.any_name_iff.2 known)) rfl
  · rw [made]
    exact receives_of_invalid invalid kind

end HasScale

/-- After any history the severities are a one-to-one scale, listed in ascending order. A severity
is created, or put in the place of the one with a name, unless it is invalid, there is none with the
name, or another one has its name or its value; these are looked at in this order, and the severity
that gives way does not stand in its own way. -/
theorem severities_one_to_one (actions : List (Moment × Action)) :
    let s := empty.after actions
    ∃ scale, s.HasScale scale ∧ scale.length ≤ 101 ∧
      (∀ input, Receives s scale True input (s.createSeverity input)) ∧
      ∀ name input, Receives s (scale.filter fun v => v.displayName ≠ name)
        (∃ v ∈ scale, v.displayName = name) input (s.updateSeverity name input) := by
  intro s
  have consistent : s.Consistent := by
    obtain ⟨operations, same⟩ := exists_run_of_actions empty actions
    change Consistent (empty.after actions)
    rw [same]
    exact consistent_run .empty operations
  obtain ⟨scale, h⟩ := consistent.exists_hasScale
  refine ⟨scale, h, h.length_le, ?_, ?_⟩
  · intro input
    exact h.createSeverity_receives consistent input
  · intro name input
    exact h.updateSeverity_receives consistent name input

end Store

end StatusPage
