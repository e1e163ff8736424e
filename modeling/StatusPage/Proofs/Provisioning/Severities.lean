import Mathlib
import StatusPage.Proofs.Store.Availability
import StatusPage.Proofs.Store.Generations

/-!
# Severities of a seed

Provisioning passes over a severity whose name is there and creates any other one, so only the
severities that the store lacks have to go in. `lacking` are those entries of a seed, `Takes` says
that a store has room for them, and `provideSeverities_ok_iff` that provisioning needs this and
nothing else. Once it went through, every name of the seed is there and stays until an operation
deletes or renames a severity (`Effect.hasSeverity`).
-/

namespace StatusPage

open Text Store

namespace Store

/-! ## Names and values of severities -/

/-- Whether there is a severity with the name. -/
def hasSeverity (s : Store) (name : String) : Bool :=
  s.severities.rows.any fun r => r.displayName == some name

theorem hasSeverity_eq (s : Store) (name : String) :
    s.hasSeverity name = (s.severities.rows.map (·.displayName)).any (· == some name) := by
  rw [hasSeverity, List.any_map]
  rfl

theorem hasSeverity_congr {s next : Store} (same : next.severities = s.severities) :
    next.hasSeverity = s.hasSeverity := by
  funext name
  rw [hasSeverity, same, hasSeverity]

/-- Whether there is a severity with the value. -/
def usesValue (s : Store) (value : Int) : Bool :=
  s.severities.rows.any fun r => r.value == .int value

/-- The store with one more severity. -/
def withSeverity (s : Store) (severity : Severity) : Store :=
  { s with severities := s.severities.insert ⟨some severity.displayName, cell8 severity.value⟩ }

theorem hasSeverity_withSeverity (s : Store) (severity : Severity) :
    (s.withSeverity severity).hasSeverity =
      fun name => s.hasSeverity name || severity.displayName == name := by
  funext name
  simp [hasSeverity, withSeverity]

theorem usesValue_withSeverity (s : Store) (severity : Severity) (value : Int) :
    (s.withSeverity severity).usesValue value =
      (s.usesValue value || decide ((severity.value.toNat : Int) = value)) := by
  have cells : (cell8 severity.value == Cell.int value) =
      decide ((severity.value.toNat : Int) = value) := by
    rw [cell8, Bool.eq_iff_iff, beq_iff_eq, Cell.int.injEq, decide_eq_true_eq]
  simp only [usesValue, withSeverity, Table.rows_insert, List.any_append, List.any_cons,
    List.any_nil, Bool.or_false, cells]

/-- A severity under a new name goes in unless its value is in use. -/
theorem createSeverity_of_new {s : Store} {v : Severity}
    (visible : Visible v.displayName) (scale : v.value.toNat ≤ 100)
    (new : s.hasSeverity v.displayName = false) :
    s.createSeverity v =
      if s.usesValue v.value.toNat then
        .fail s (.failed "create_severity" v.displayName (.unique ["severities.value"]))
      else ⟨.ok v, s.withSeverity v⟩ := by
  have made : Severity.make v.displayName v.value.toNat = .ok v :=
    Severity.make_ok_iff.2 ⟨visible, scale, rfl⟩
  have names : (s.severities.rows.any fun r => r.displayName == some v.displayName) =
      false := new
  have clash : severityClash? s.severities.rows v =
      if s.usesValue v.value.toNat then some (.unique ["severities.value"]) else none := by
    rw [severityClash?, names]
    rfl
  rw [createSeverity, made]
  dsimp only
  rw [clash]
  cases s.usesValue v.value.toNat <;> rfl

namespace Consistent

variable {s : Store} (h : s.Consistent)

include h

theorem exists_getSeverity {name : String} (known : s.hasSeverity name = true) :
    Visible name ∧ ∃ v, s.getSeverity name = .ok (some v) := by
  obtain ⟨r, found⟩ := Option.isSome_iff_exists.1 ((List.isSome_find?).trans known)
  obtain ⟨v, rfl, visible, -⟩ := h.severityRows r (List.mem_of_find?_eq_some found)
  have same : v.displayName = name := by simpa using List.find?_some found
  exact ⟨same ▸ visible, v, getSeverity_of_found found⟩

end Consistent

theorem getSeverity_of_new {s : Store} {name : String} (new : s.hasSeverity name = false) :
    s.getSeverity name = .ok none := by
  have found : (s.severities.rows.find? fun r => r.displayName == some name) = none := by
    rw [← Option.not_isSome_iff_eq_none, List.isSome_find?]
    exact Bool.eq_false_iff.1 new
  rw [getSeverity, found]

end Store

namespace Provision

/-! ## Severities of a seed -/

/-- The entries of a seed that provisioning has to create: those whose names are not known, and of
those with one name the first. -/
def lacking (known : String → Bool) : List SeveritySeed → List SeveritySeed
  | [] => []
  | seed :: seeds =>
    if known seed.displayName then lacking known seeds
    else seed :: lacking (fun name => known name || seed.displayName == name) seeds

/-- A store takes severities with the values of entries: each value is on the scale and no other
severity has it, neither in the store nor among the entries. -/
structure Takes (s : Store) (seeds : List SeveritySeed) : Prop where
  scale : ∀ seed ∈ seeds, 0 ≤ seed.value ∧ seed.value ≤ 100
  unused : ∀ seed ∈ seeds, s.usesValue seed.value = false
  distinct : (seeds.map (·.value)).Nodup

end Provision

/-- The severity of an entry on the scale. -/
def SeveritySeed.onScale (seed : SeveritySeed) : Severity :=
  ⟨seed.displayName, UInt8.ofNat seed.value.toNat⟩

theorem SeveritySeed.value_onScale {seed : SeveritySeed}
    (scale : 0 ≤ seed.value ∧ seed.value ≤ 100) :
    (seed.onScale.value.toNat : Int) = seed.value := by
  have small : seed.value.toNat % 2 ^ 8 = seed.value.toNat := Nat.mod_eq_of_lt (by omega)
  rw [onScale, UInt8.toNat_ofNat', small]
  omega

theorem SeveritySeed.make_ok_iff {seed : SeveritySeed} {severity : Severity} :
    Severity.make seed.displayName seed.value = .ok severity ↔
      Visible seed.displayName ∧ (0 ≤ seed.value ∧ seed.value ≤ 100) ∧ severity = seed.onScale := by
  unfold Severity.make checkSeverity maxSeverity
  cases blankName : blank seed.displayName with
  | true => simp [visible_iff, blankName]
  | false =>
    by_cases scale : 0 ≤ seed.value ∧ seed.value ≤ (100 : Nat)
    · have in_range : 0 ≤ seed.value ∧ seed.value ≤ 100 := scale
      simp [visible_iff, blankName, in_range, onScale, Except.map, eq_comm]
    · have off_range : ¬ (0 ≤ seed.value ∧ seed.value ≤ 100) := scale
      simp [visible_iff, blankName, off_range, Except.map]

namespace Provision

section Severities

variable {s : Store} {seed : SeveritySeed} {seeds : List SeveritySeed}

/-- An entry whose name is there is passed over, whatever its value. -/
theorem provideSeverities_of_known (h : s.Consistent)
    (known : s.hasSeverity seed.displayName = true) :
    provideSeverities s (seed :: seeds) = provideSeverities s seeds := by
  obtain ⟨-, severity, read⟩ := h.exists_getSeverity known
  rw [provideSeverities, read]

/-- An entry with a new name and a value of its own is created. -/
theorem provideSeverities_of_added (new : s.hasSeverity seed.displayName = false)
    (visible : Visible seed.displayName) (scale : 0 ≤ seed.value ∧ seed.value ≤ 100)
    (unused : s.usesValue seed.value = false) :
    provideSeverities s (seed :: seeds) =
      provideSeverities (s.withSeverity seed.onScale) seeds := by
  have made := SeveritySeed.make_ok_iff.2 ⟨visible, scale, rfl⟩
  have value := SeveritySeed.value_onScale scale
  have created : s.createSeverity seed.onScale =
      ⟨.ok seed.onScale, s.withSeverity seed.onScale⟩ := by
    have outcome := createSeverity_of_new (v := seed.onScale) visible (by omega) new
    rwa [value, unused, if_neg Bool.false_ne_true] at outcome
  rw [provideSeverities, getSeverity_of_new new]
  simp only [made, created]

/-- Any other entry with a new name stops the provisioning, whatever comes after it. -/
theorem provideSeverities_of_refused (new : s.hasSeverity seed.displayName = false)
    (refused : ¬ (Visible seed.displayName ∧ (0 ≤ seed.value ∧ seed.value ≤ 100) ∧
      s.usesValue seed.value = false)) :
    ∃ stop : Stop, (stop.step = .checkSeverity seed.displayName ∨
        stop.step = .createSeverity seed.displayName) ∧
      ∀ rest, provideSeverities s (seed :: rest) = (.error stop, s) := by
  cases made : Severity.make seed.displayName seed.value with
  | error error =>
    refine ⟨⟨.checkSeverity seed.displayName, .refused error⟩, Or.inl rfl, fun rest => ?_⟩
    rw [provideSeverities, getSeverity_of_new new]
    simp only [made]
  | ok severity =>
    obtain ⟨visible, scale, rfl⟩ := SeveritySeed.make_ok_iff.1 made
    have value := SeveritySeed.value_onScale scale
    have used : s.usesValue seed.onScale.value.toNat = true := by
      rw [value, ← Bool.not_eq_false]
      exact fun unused => refused ⟨visible, scale, unused⟩
    have failed := createSeverity_of_new (v := seed.onScale) visible (by omega) new
    rw [if_pos used] at failed
    let clash : Fault :=
      .failed "create_severity" seed.onScale.displayName (.unique ["severities.value"])
    refine ⟨⟨.createSeverity seed.displayName, clash⟩, Or.inr rfl, fun rest => ?_⟩
    rw [provideSeverities, getSeverity_of_new new]
    simp only [made, failed, Outcome.fail, clash]

theorem consistent_withSeverity (h : s.Consistent) (new : s.hasSeverity seed.displayName = false)
    (visible : Visible seed.displayName) (scale : 0 ≤ seed.value ∧ seed.value ≤ 100)
    (unused : s.usesValue seed.value = false) : (s.withSeverity seed.onScale).Consistent := by
  have value := SeveritySeed.value_onScale scale
  have created := createSeverity_of_new (v := seed.onScale) visible (by omega) new
  rw [value, unused, if_neg Bool.false_ne_true] at created
  have next := h.effect
    (createSeverity_effect ⟨Instant.epoch, fun _ => default⟩ s seed.onScale)
  rwa [created] at next

/-- Room for an entry and the rest is room for the rest once the entry is there. -/
theorem takes_cons_iff :
    Takes s (seed :: seeds) ↔ (0 ≤ seed.value ∧ seed.value ≤ 100) ∧
      s.usesValue seed.value = false ∧ Takes (s.withSeverity seed.onScale) seeds := by
  constructor
  · rintro ⟨scale, unused, distinct⟩
    rw [List.map_cons, List.nodup_cons] at distinct
    have first := scale seed List.mem_cons_self
    refine ⟨first, unused seed List.mem_cons_self, ?_, ?_, distinct.2⟩
    · exact fun other later => scale other (List.mem_cons_of_mem _ later)
    · intro other later
      have differ : seed.value ≠ other.value :=
        fun same => distinct.1 (List.mem_map.2 ⟨other, later, same.symm⟩)
      rw [usesValue_withSeverity, SeveritySeed.value_onScale first,
        unused other (List.mem_cons_of_mem _ later), decide_eq_false differ]
      rfl
  · rintro ⟨first, first_unused, scale, unused, distinct⟩
    have others : ∀ other ∈ seeds, s.usesValue other.value = false ∧ seed.value ≠ other.value := by
      intro other later
      have free := unused other later
      rw [usesValue_withSeverity, SeveritySeed.value_onScale first, Bool.or_eq_false_iff] at free
      exact ⟨free.1, of_decide_eq_false free.2⟩
    refine ⟨List.forall_mem_cons.2 ⟨first, scale⟩,
      List.forall_mem_cons.2 ⟨first_unused, fun other later => (others other later).1⟩, ?_⟩
    rw [List.map_cons, List.nodup_cons]
    refine ⟨?_, distinct⟩
    intro again
    obtain ⟨other, later, same⟩ := List.mem_map.1 again
    exact (others other later).2 same.symm

end Severities

/-- Among entries with names that can be seen, provisioning needs room for those it has to create
and for nothing else. -/
theorem provideSeverities_ok_iff {s : Store} (h : s.Consistent) {seeds : List SeveritySeed}
    (visible : ∀ seed ∈ seeds, Visible seed.displayName) :
    (provideSeverities s seeds).1 = .ok () ↔ Takes s (lacking s.hasSeverity seeds) := by
  induction seeds generalizing s with
  | nil => exact iff_of_true rfl ⟨by simp [lacking], by simp [lacking], List.nodup_nil⟩
  | cons seed rest ih =>
    obtain ⟨first, others⟩ := List.forall_mem_cons.1 visible
    rw [lacking]
    cases named : s.hasSeverity seed.displayName with
    | true =>
      rw [provideSeverities_of_known h named, if_pos rfl]
      exact ih h others
    | false =>
      have names : (s.withSeverity seed.onScale).hasSeverity =
          fun name => s.hasSeverity name || seed.displayName == name :=
        hasSeverity_withSeverity s seed.onScale
      rw [if_neg Bool.false_ne_true, takes_cons_iff, ← names]
      by_cases fits : (0 ≤ seed.value ∧ seed.value ≤ 100) ∧ s.usesValue seed.value = false
      · obtain ⟨scale, unused⟩ := fits
        rw [provideSeverities_of_added named first scale unused,
          ih (consistent_withSeverity h named first scale unused) others]
        exact ⟨fun room => ⟨scale, unused, room⟩, fun room => room.2.2⟩
      · obtain ⟨stop, -, stopped⟩ :=
          provideSeverities_of_refused named fun accepted => fits accepted.2
        rw [stopped]
        exact iff_of_false nofun fun room => fits ⟨room.1, room.2.1⟩

end Provision

/-! ## Names that stay -/

/-- An operation takes no severity its name: it neither deletes nor renames one. -/
def Store.Operation.KeepsNames : Operation → Prop
  | .deleteSeverity _ => False
  | .updateSeverity name input => input.displayName = name
  | _ => True

theorem Store.Operation.AddsWord.keepsNames {operation : Operation} (adds : operation.AddsWord) :
    operation.KeepsNames := by
  cases operation with
  | createImpactType => trivial
  | createSeverity => trivial
  | _ => exact adds.elim

theorem Store.Effect.hasSeverity {m : Moment} {s : Store} {operation : Operation}
    {o : Outcome operation.Result} (done : Effect m s operation o) (keeps : operation.KeepsNames)
    {name : String} (known : s.hasSeverity name = true) : o.store.hasSeverity name = true := by
  cases done with
  | deleteSeverity => exact keeps.elim
  | @createSeverity input =>
    have names := hasSeverity_withSeverity s input
    exact (congrFun names name).trans (by rw [known, Bool.true_or])
  | @updateSeverity old input =>
    have same : input.displayName = old := keeps
    have column : (s.severities.map fun r => if r.displayName = some old then
        ⟨some input.displayName, cell8 input.value⟩ else r).rows.map (·.displayName) =
        s.severities.rows.map (·.displayName) :=
      keys_replace fun r hit => (congrArg some same).trans hit.symm
    rw [hasSeverity_eq] at known ⊢
    rwa [column]
  | _ => exact known

theorem Store.hasSeverity_run {s : Store} {operations : List (Moment × Operation)}
    (keep : ∀ step ∈ operations, step.2.KeepsNames) {name : String}
    (known : s.hasSeverity name = true) : (s.run operations).hasSeverity name = true :=
  @run_induction (fun step => step.2.KeepsNames) (fun t => t.hasSeverity name = true)
    (fun keeps known done => done.hasSeverity keeps known) s known operations keep

namespace Provision

theorem AddsWords.hasSeverity {s next : Store} (added : AddsWords s next) {name : String}
    (known : s.hasSeverity name = true) : next.hasSeverity name = true := by
  obtain ⟨steps, words, rfl⟩ := added
  exact hasSeverity_run (fun step member => (words step member).keepsNames) known

theorem AddsWords.consistent {s next : Store} (added : AddsWords s next) (h : s.Consistent) :
    next.Consistent := by
  obtain ⟨steps, -, rfl⟩ := added
  exact consistent_run h steps

/-! ## After the first provisioning -/

/-- Provisioning that went through has seen to every entry of its seed. -/
theorem provideSeverities_ok {s : Store} (h : s.Consistent) {seeds : List SeveritySeed}
    (went : (provideSeverities s seeds).1 = .ok ()) :
    ∀ seed ∈ seeds, Visible seed.displayName ∧
      (provideSeverities s seeds).2.hasSeverity seed.displayName = true := by
  induction seeds generalizing s with
  | nil => simp
  | cons seed rest ih =>
    cases named : s.hasSeverity seed.displayName with
    | true =>
      rw [provideSeverities_of_known h named] at went ⊢
      have there := (provideSeverities_addsWords s rest).hasSeverity named
      exact List.forall_mem_cons.2 ⟨⟨(h.exists_getSeverity named).1, there⟩, ih h went⟩
    | false =>
      by_cases fits : Visible seed.displayName ∧ (0 ≤ seed.value ∧ seed.value ≤ 100) ∧
          s.usesValue seed.value = false
      · obtain ⟨visible, scale, unused⟩ := fits
        rw [provideSeverities_of_added named visible scale unused] at went ⊢
        have created : (s.withSeverity seed.onScale).hasSeverity seed.displayName = true := by
          rw [hasSeverity_withSeverity]
          simp [SeveritySeed.onScale]
        have there := (provideSeverities_addsWords _ rest).hasSeverity created
        have next := consistent_withSeverity h named visible scale unused
        exact List.forall_mem_cons.2 ⟨⟨visible, there⟩, ih next went⟩
      · obtain ⟨stop, -, stopped⟩ := provideSeverities_of_refused named fits
        rw [stopped] at went
        cases went

end Provision

end StatusPage
