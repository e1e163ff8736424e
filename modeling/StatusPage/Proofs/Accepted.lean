import Mathlib
import StatusPage.Component
import StatusPage.ImpactType
import StatusPage.Incident
import StatusPage.Phase.Generation
import StatusPage.Update

/-!
# What is accepted

Each request is checked before anything is written. The lemmas here say what is known of a request
that passes, as conditions on its content: names and label keys can be seen (`Visible`), values are
on the scale, windows end no earlier than they begin and no impact is repeated. `bind_ok_iff` and
`unless_ok_iff` take a chain of checks apart.
-/

namespace StatusPage

open Text

/-! ## Chains of checks -/

section Checks

variable {ε α β : Type}

theorem ok_bind (a : α) (f : α → Except ε β) : (.ok a >>= f) = f a := rfl

theorem bind_ok_iff {x : Except ε α} {f : α → Except ε β} {b : β} :
    (x >>= f) = .ok b ↔ ∃ a, x = .ok a ∧ f a = .ok b := by
  cases x <;> simp [bind, Except.bind]

theorem bind_error_iff {x : Except ε α} {f : α → Except ε β} {e : ε} :
    (x >>= f) = .error e ↔ x = .error e ∨ ∃ a, x = .ok a ∧ f a = .error e := by
  cases x <;> simp [bind, Except.bind]

theorem map_ok_iff {x : Except ε α} {f : α → β} {b : β} :
    x.map f = .ok b ↔ ∃ a, x = .ok a ∧ f a = b := by
  cases x <;> simp [Except.map]

theorem mapError_ok_iff {δ : Type} {x : Except ε α} {f : ε → δ} {a : α} :
    x.mapError f = .ok a ↔ x = .ok a := by
  cases x <;> simp [Except.mapError]

/-- A check that is passed has found nothing, and the rest goes on. -/
theorem unless_ok_iff {c : Prop} [Decidable c] {e : ε} {rest : Unit → Except ε α} {a : α} :
    (if c then throw e >>= rest else rest ()) = .ok a ↔ ¬ c ∧ rest () = .ok a := by
  by_cases found : c <;> simp [found, bind, Except.bind, throw, throwThe, MonadExceptOf.throw]

end Checks

/-! ## Names -/

/-- A name in which something can be seen: trimming leaves something of it. -/
def Visible (name : String) : Prop :=
  trim name.toList ≠ []

theorem visible_iff {name : String} : Visible name ↔ blank name = false := by
  rw [Visible, ne_eq, trim_eq_nil_iff, blank, ← Bool.not_eq_true, List.all_eq_true]

theorem NewComponent.validate_ok_iff {input : NewComponent} :
    input.validate = .ok () ↔
      Visible input.displayName ∧ ∀ p ∈ input.labels.entries, Visible p.1 := by
  have keys : input.labels.keysVisible = true ↔ ∀ p ∈ input.labels.entries, Visible p.1 := by
    simp only [Labels.keysVisible, List.all_eq_true, visible_iff, Bool.not_eq_true']
  rw [← keys, visible_iff]
  cases name : blank input.displayName <;> cases visible : input.labels.keysVisible <;>
    simp [validate, Labels.validate, name, visible]

theorem NewImpactType.validate_ok_iff {input : NewImpactType} :
    input.validate = .ok () ↔ Visible input.displayName := by
  cases name : blank input.displayName <;> simp [validate, visible_iff, name]

theorem NewIncidentUpdate.validate_ok_iff {input : NewIncidentUpdate} :
    input.validate = .ok () ↔ Visible input.displayName := by
  cases name : blank input.displayName <;> simp [validate, visible_iff, name]

/-! ## Severities -/

/-- A value of eight bits passes unchanged or not at all. -/
theorem checkSeverity_ok_iff {value checked : UInt8} :
    checkSeverity value.toNat = .ok checked ↔ value.toNat ≤ 100 ∧ checked = value := by
  unfold checkSeverity maxSeverity
  split
  · next scale =>
    have top : value.toNat ≤ 100 := by omega
    simp [top, eq_comm]
  · next scale =>
    have top : ¬ value.toNat ≤ 100 := by omega
    simp [top]

theorem Severity.make_ok_iff {name : String} {value : UInt8} {severity : Severity} :
    Severity.make name value.toNat = .ok severity ↔
      Visible name ∧ value.toNat ≤ 100 ∧ severity = ⟨name, value⟩ := by
  unfold Severity.make
  cases blankName : blank name
  · simp only [visible_iff, blankName, Bool.false_eq_true, if_false, map_ok_iff,
      checkSeverity_ok_iff, true_and]
    constructor
    · rintro ⟨checked, ⟨scale, rfl⟩, rfl⟩
      exact ⟨scale, rfl⟩
    · rintro ⟨scale, rfl⟩
      exact ⟨value, ⟨scale, rfl⟩, rfl⟩
  · simp [visible_iff, blankName]

/-! ## Incidents -/

/-- What an impact is an impact on. -/
def Impact.target (impact : Impact) : Uuid × Uuid :=
  (impact.component, impact.impactType)

theorem repeatedImpact?_eq_none_iff {seen : List (Uuid × Uuid)} {impacts : List Impact} :
    repeatedImpact? seen impacts = none ↔
      (impacts.map Impact.target).Nodup ∧ ∀ impact ∈ impacts, impact.target ∉ seen := by
  induction impacts generalizing seen with
  | nil => simp [repeatedImpact?]
  | cons impact rest ih =>
    unfold repeatedImpact?
    split
    · next known => simp [Impact.target, known]
    · next fresh =>
      rw [ih, List.map_cons, List.nodup_cons]
      constructor
      · rintro ⟨distinct, unseen⟩
        refine ⟨⟨?_, distinct⟩, ?_⟩
        · intro again
          obtain ⟨other, member, same⟩ := List.mem_map.1 again
          exact unseen other member (by rw [same]; exact List.mem_cons_self)
        · intro other member
          rcases List.mem_cons.1 member with rfl | member
          · exact fresh
          · exact fun known => unseen other member (List.mem_cons_of_mem _ known)
      · rintro ⟨⟨first, distinct⟩, unseen⟩
        refine ⟨distinct, ?_⟩
        intro other member known
        rcases List.mem_cons.1 known with same | known
        · exact first (List.mem_map.2 ⟨other, member, same⟩)
        · exact unseen other (List.mem_cons_of_mem _ member) known

/-- What is known of an incident that a caller may give. -/
structure NewIncident.Accepted (input : NewIncident) : Prop where
  name : Visible input.displayName
  window : ∀ ended ∈ input.endedAt, input.beganAt ≤ ended
  targets : (input.impacts.map Impact.target).Nodup

theorem Window.make_ok_iff {beganAt : Instant} {endedAt : Option Instant} {w : Window} :
    Window.make beganAt endedAt = .ok w ↔
      (∀ ended ∈ endedAt, beganAt ≤ ended) ∧ w = ⟨beganAt, endedAt⟩ := by
  cases endedAt with
  | none => simp [Window.make, eq_comm]
  | some ended =>
    have order : beganAt ≤ ended ↔ ¬ ended < beganAt := Iff.rfl
    by_cases early : ended < beganAt <;> simp [Window.make, order, early, eq_comm]

theorem NewIncident.validate_ok_iff {input : NewIncident} :
    input.validate = .ok () ↔ input.Accepted := by
  have found := @repeatedImpact?_eq_none_iff [] input.impacts
  simp only [List.not_mem_nil, not_false_eq_true, implies_true, and_true] at found
  unfold validate
  simp only [unless_ok_iff, bind_ok_iff, Window.make_ok_iff, Bool.not_eq_true]
  cases again : repeatedImpact? [] input.impacts with
  | none =>
    have targets := found.1 again
    constructor
    · rintro ⟨name, w, ⟨window, -⟩, -⟩
      exact ⟨visible_iff.2 name, window, targets⟩
    · rintro ⟨name, window, -⟩
      exact ⟨visible_iff.1 name, _, ⟨window, rfl⟩, rfl⟩
  | some impact =>
    constructor
    · rintro ⟨-, w, -, refused⟩
      cases refused
    · rintro ⟨-, -, targets⟩
      rw [found.2 targets] at again
      cases again

/-! ## Generations -/

theorem buildGeneration_ok_iff {generation : UInt32} {names : List String} {phases : List Phase} :
    buildGeneration generation names = .ok phases ↔
      names ≠ [] ∧ (∀ name ∈ names, Visible name) ∧ phases = numberPhases generation 0 names := by
  have visible : names.findIdx? blank = none ↔ ∀ name ∈ names, Visible name := by
    simp [List.findIdx?_eq_none_iff, visible_iff]
  unfold buildGeneration
  by_cases none_given : names = []
  · simp [none_given]
  · rw [if_neg none_given, ← visible]
    cases names.findIdx? blank <;> simp [none_given, eq_comm]

end StatusPage
