import Mathlib
import StatusPage.Proofs.Store.Entities
import StatusPage.Proofs.Store.Listings
import StatusPage.Proofs.Store.Resolution

/-!
# Listings of components by label

A query for labels looks for a row of each of its pairs, while callers have a label set and ask
whether it includes the query. `hasLabels_eq` says that both decide alike, since no component has
two rows with one key. With the second filter, `listComponents_matches` says which components a
listing shows, whatever is asked for; and `affectingIncidents_ne_nil_iff` says what being affected
means in terms of the contents that incidents were last given.
-/

namespace StatusPage

open Text

namespace Store

variable {s : Store}

namespace Consistent

/-! ## Labels in rows -/

/-- No two rows give a component a value for one key. -/
theorem nodup_labelKeys (h : s.Consistent) (id : Uuid) :
    (((s.labels.rows.filter fun l => l.component == id.text).map
      fun l => (l.key, l.value)).map (·.1)).Nodup := by
  rw [List.map_map]
  refine List.Nodup.map_on ?_ (h.labelPairs.of_map.filter _)
  intro l l_member k k_member same
  rw [List.mem_filter, beq_iff_eq] at l_member k_member
  refine List.inj_on_of_nodup_map h.labelPairs l_member.1 k_member.1 ?_
  exact Prod.ext (l_member.2.trans k_member.2.symm) same

/-- The labels of a component are those of its rows. -/
theorem get?_labelsOf (h : s.Consistent) {id : Uuid} {key value : String} :
    (s.labelsOf id.text).get? key = some value ↔ ⟨id.text, key, value⟩ ∈ s.labels.rows := by
  rw [labelsOf, Labels.get?_ofList (h.nodup_labelKeys id), List.mem_map]
  constructor
  · rintro ⟨l, member, same⟩
    obtain ⟨row, owner⟩ := List.mem_filter.1 member
    rw [beq_iff_eq] at owner
    rw [Prod.mk.injEq] at same
    rw [← owner, ← same.1, ← same.2]
    exact row
  · intro row
    exact ⟨_, List.mem_filter.2 ⟨row, by simp⟩, rfl⟩

/-- A query finds its pairs among the rows exactly if the label set includes it. -/
theorem hasLabels_eq (h : s.Consistent) (p : Uuid × String) (query : Labels) :
    s.hasLabels (componentRow p) query = (s.labelsOf p.1.text).includes query := by
  rw [Bool.eq_iff_iff, Labels.includes_iff]
  simp only [hasLabels, List.all_eq_true, List.any_eq_true, componentRow, Bool.and_eq_true,
    beq_iff_eq, Option.some.injEq, h.get?_labelsOf]
  constructor
  · intro rows key value member
    obtain ⟨l, row, ⟨owner, same_key⟩, same_value⟩ : ∃ l ∈ s.labels.rows,
        (l.component = p.1.text ∧ l.key = key) ∧ l.value = value := rows (key, value) member
    rw [← owner, ← same_key, ← same_value]
    exact row
  · intro rows pair member
    exact ⟨_, rows pair.1 pair.2 member, ⟨rfl, rfl⟩, rfl⟩

/-! ## Listings with a query -/

/-- What a query shows is in strictly ascending order, and each component is there once. -/
theorem ordered_components (h : s.Consistent) {pairs : List (Uuid × String)}
    (rows : s.components.rows = pairs.map componentRow) (keep : Uuid × String → Bool) :
    (((sortedBy nameKey (pairs.filter keep)).map s.componentOf).map (·.id)).Nodup ∧
      ((sortedBy nameKey (pairs.filter keep)).map s.componentOf).Pairwise
        (NameBefore (·.displayName) (·.id)) := by
  have distinct := h.componentKeys.distinct
  rw [Store.componentKeys, rows, List.map_map] at distinct
  have keys := distinct.sublist ((List.filter_sublist (p := keep) (l := pairs)).map _)
  constructor
  · rw [List.map_map]
    refine (((sortedBy_perm nameKey _).map _).nodup_iff).2 ?_
    exact nodup_orders keys (fun id => some id.text) fun _ => rfl
  · refine List.pairwise_map.2 ((pairwise_sortedBy nameKey ?_).imp ?_)
    · exact nodup_orders keys (fun key => some (ofLex key).2) fun _ => rfl
    · intro p q less
      rwa [nameKey, nameKey, Prod.Lex.toLex_lt_toLex, Uuid.text_lt_text_iff] at less

/-- A query shows the components whose labels include those that it asks for and, if it asks for
affected ones, that some impact in force names. -/
theorem listComponents_iff (h : s.Consistent) (labels : Labels) (affected : Bool)
    (t : Option Instant) :
    ∃ listed, s.listComponents ⟨labels, affected, t⟩ = .ok listed ∧
      (listed.map (·.id)).Nodup ∧ listed.Pairwise (NameBefore (·.displayName) (·.id)) ∧
      ∀ c, c ∈ listed ↔ s.getComponent c.id = .ok (some c) ∧ c.labels.includes labels = true ∧
        (affected = true →
          ∃ affecting, s.affectingIncidents c.id t = .ok affecting ∧ affecting ≠ []) := by
  obtain ⟨pairs, rows⟩ := h.exists_components
  obtain ⟨once, ordered⟩ := h.ordered_components rows fun p =>
    s.hasLabels (componentRow p) labels && (!affected || s.isAffected (componentRow p) t)
  refine ⟨_, listComponents_eq rows ⟨labels, affected, t⟩, once, ordered, ?_⟩
  intro c
  rw [h.mem_map_componentOf rows]
  refine and_congr_right fun found => ?_
  obtain ⟨-, -, its_labels⟩ := h.getComponent_eq_some_iff.1 found
  obtain ⟨affecting, shown, some_shown⟩ :=
    h.affectingIncidents_ne_nil (h.hasComponent_of_getComponent found) t
  have isAffected_iff : s.isAffected (componentRow (c.id, c.displayName)) t = true ↔
      ∃ affecting, s.affectingIncidents c.id t = .ok affecting ∧ affecting ≠ [] := by
    simp only [shown, Except.ok.injEq, exists_eq_left', some_shown, isAffected, List.any_eq_true,
      componentRow, beq_iff_eq, Option.some.injEq]
  rw [Bool.and_eq_true, h.hasLabels_eq, ← its_labels, Bool.or_eq_true, Bool.not_eq_true',
    isAffected_iff]
  refine and_congr_right fun _ => ?_
  cases affected <;> simp

end Consistent

/-- Nothing comes before what comes before it. -/
theorem NameBefore.asymm {α : Type} {name : α → String} {id : α → Uuid} {a b : α}
    (before : NameBefore name id a b) : ¬ NameBefore name id b a := by
  rintro (name_less | ⟨same_name, id_less⟩)
  · rcases before with other | ⟨same, -⟩
    · exact String.lt_asymm name_less other
    · exact String.lt_irrefl _ (same ▸ name_less)
  · rcases before with other | ⟨-, other⟩
    · exact String.lt_irrefl _ (same_name ▸ other)
    · simp only [BitVec.lt_def] at id_less other
      omega

/-- Of two listings in one strict order, one that has no more in it is a part of the other. -/
theorem sublist_of_ordered {fewer listed : List Component} (once : (fewer.map (·.id)).Nodup)
    (fewer_ordered : fewer.Pairwise (NameBefore (·.displayName) (·.id)))
    (ordered : listed.Pairwise (NameBefore (·.displayName) (·.id)))
    (within : ∀ c ∈ fewer, c ∈ listed) : fewer.Sublist listed := by
  have antisymm : Std.Antisymm (NameBefore Component.displayName Component.id) :=
    ⟨fun a b ab ba => absurd ba ab.asymm⟩
  exact List.sublist_of_subperm_of_pairwise (once.of_map.subperm within) fewer_ordered ordered

/-- In years of four digits an impact is in force exactly if callers see the window of its incident
as active at the instant that is shown. -/
theorem mem_activeImpacts_iff {s : Store} (times : s.IncidentTimes Instant.FourDigitYear)
    {t : Option Instant} (asked : ∀ u ∈ t, u.FourDigitYear) {m : ImpactRow} :
    m ∈ s.activeImpacts t ↔ m ∈ s.impacts.rows ∧ ∃ i : Incident, i.row ∈ s.incidents.rows ∧
      i.TimesIn Instant.FourDigitYear ∧ i.id.text = m.incident ∧
      i.kept.window.isActive (t.map Instant.settle) = true := by
  rw [activeImpacts, List.mem_filter, List.any_eq_true]
  simp only [Bool.and_eq_true, beq_iff_eq]
  refine and_congr_right fun _ => ⟨?_, ?_⟩
  · rintro ⟨r, member, key, active⟩
    obtain ⟨i, rfl, bounds⟩ := times r member
    rw [Incident.activeAt_row bounds asked] at active
    exact ⟨i, member, bounds, Option.some.inj key, active⟩
  · rintro ⟨i, member, bounds, key, active⟩
    rw [← Incident.activeAt_row bounds asked] at active
    exact ⟨i.row, member, congrArg some key, active⟩

/-- In years of four digits, with leap seconds at the end of a minute, a component is affected
exactly if the last content that some incident was given names it, and callers see the window of
that incident as active. -/
theorem affectingIncidents_ne_nil_iff {operations : List (Moment × Operation)}
    (given : ∀ step ∈ operations, step.2.TimesIn Instant.FourDigitYear) {t : Option Instant}
    (asked : ∀ u ∈ t, u.FourDigitYear) (regular : ∀ u ∈ t, u.Regular) {c : Uuid}
    (known : (empty.run operations).hasComponent c = true) :
    (∃ affecting, (empty.run operations).affectingIncidents c t = .ok affecting ∧
        affecting ≠ []) ↔
      ∃ i input, (empty.run operations).getIncident i.id = .ok (some i) ∧
        i.window.isActive t = true ∧ lastWrite i.id empty operations = some input ∧
        ∃ impact ∈ input.impacts, impact.component = c := by
  have consistent := consistent_run .empty operations
  have times := incidentTimes_run .empty given
  obtain ⟨affecting, shown, some_shown⟩ := consistent.affectingIncidents_ne_nil known t
  have in_force {m : ImpactRow} := mem_activeImpacts_iff times asked (m := m)
  rw [Instant.map_settle_eq_self_iff.2 regular] at in_force
  simp only [shown, Except.ok.injEq, exists_eq_left', some_shown]
  constructor
  · rintro ⟨m, active, component⟩
    obtain ⟨row, i, member, bounds, key, window⟩ := in_force.1 active
    have present : (empty.run operations).hasIncident i.id = true :=
      hasIncident_iff.2 (List.mem_map.2 ⟨_, member, rfl⟩)
    obtain ⟨input, written, -, rows⟩ := impacts_follow_lastWrite given i.id present
    have own : m ∈ (empty.run operations).impactsOf i.id :=
      List.mem_filter.2 ⟨row, by rw [beq_iff_eq, key]⟩
    rw [rows] at own
    obtain ⟨impact, listed, rfl⟩ := List.mem_map.1 own
    exact ⟨i.kept, input, getIncident_of_found bounds (consistent.findIncident_eq member),
      window, written, impact, listed, Uuid.text_injective component⟩
  · rintro ⟨j, input, read, window, written, impact, listed, rfl⟩
    obtain ⟨i, found, same, bounds, rfl⟩ := times.exists_of_getIncident read
    have present : (empty.run operations).hasIncident i.id = true := by
      rw [← findIncident_isSome, same, found]
      rfl
    obtain ⟨last, last_written, -, rows⟩ := impacts_follow_lastWrite given i.id present
    obtain rfl : last = input := Option.some.inj (last_written.symm.trans written)
    have own : impactRow i.id impact ∈ (empty.run operations).impactsOf i.id := by
      rw [rows]
      exact List.mem_map_of_mem listed
    have active := in_force.2
      ⟨List.mem_of_mem_filter own, i, (mem_of_findIncident found).1, bounds, rfl, window⟩
    exact ⟨impactRow i.id impact, active, rfl⟩

/-- After any operations, and whatever is asked for: a listing of components shows those whose
labels include those of the query and, if asked for affected ones, that are shown with some impact
that is in force, each once, by name and then by identifier, with all its labels. A query with a
further label shows a part of them, and the two filters are applied one with the other. In years of
four digits, and with leap seconds at the end of a minute, an impact is in force if the last content
that an incident was given has it and the window of the incident is active. -/
theorem listComponents_matches (operations : List (Moment × Operation)) (labels : Labels)
    (affected : Bool) (t : Option Instant) :
    let s := empty.run operations
    ∃ listed, s.listComponents ⟨labels, affected, t⟩ = .ok listed ∧
      (listed.map (·.id)).Nodup ∧ listed.Pairwise (NameBefore (·.displayName) (·.id)) ∧
      (∀ c, c ∈ listed ↔ s.getComponent c.id = .ok (some c) ∧ c.labels.includes labels = true ∧
        (affected = true →
          ∃ affecting, s.affectingIncidents c.id t = .ok affecting ∧ affecting ≠ [])) ∧
      (∀ c ∈ listed, ∀ key value,
        c.labels.get? key = some value ↔ ⟨c.id.text, key, value⟩ ∈ s.labels.rows) ∧
      (∀ key value, labels.get? key = none →
        ∃ fewer, s.listComponents ⟨labels.insert key value, affected, t⟩ = .ok fewer ∧
          fewer.Sublist listed) ∧
      (∃ labelled touched, s.listComponents ⟨labels, false, t⟩ = .ok labelled ∧
        s.listComponents ⟨∅, affected, t⟩ = .ok touched ∧
        ∀ c, c ∈ listed ↔ c ∈ labelled ∧ c ∈ touched) ∧
      ((∀ step ∈ operations, step.2.TimesIn Instant.FourDigitYear) →
        (∀ u ∈ t, u.FourDigitYear) → (∀ u ∈ t, u.Regular) → ∀ c, s.hasComponent c = true →
        ((∃ affecting, s.affectingIncidents c t = .ok affecting ∧ affecting ≠ []) ↔
          ∃ i input, s.getIncident i.id = .ok (some i) ∧ i.window.isActive t = true ∧
            lastWrite i.id empty operations = some input ∧
            ∃ impact ∈ input.impacts, impact.component = c)) := by
  intro s
  have consistent : s.Consistent := consistent_run .empty operations
  obtain ⟨listed, answer, once, ordered, member⟩ :=
    consistent.listComponents_iff labels affected t
  refine ⟨listed, answer, once, ordered, member, ?_, ?_, ?_, ?_⟩
  · intro c shown key value
    obtain ⟨-, -, its_labels⟩ := consistent.getComponent_eq_some_iff.1 ((member c).1 shown).1
    rw [its_labels, consistent.get?_labelsOf]
  · intro key value fresh
    obtain ⟨fewer, fewer_answer, fewer_once, fewer_ordered, fewer_member⟩ :=
      consistent.listComponents_iff (labels.insert key value) affected t
    refine ⟨fewer, fewer_answer, sublist_of_ordered fewer_once fewer_ordered ordered ?_⟩
    intro c shown
    obtain ⟨found, includes, touched⟩ := (fewer_member c).1 shown
    exact (member c).2 ⟨found, Labels.includes_trans includes (Labels.includes_insert fresh value),
      touched⟩
  · obtain ⟨labelled, labelled_answer, -, -, labelled_member⟩ :=
      consistent.listComponents_iff labels false t
    obtain ⟨touched, touched_answer, -, -, touched_member⟩ :=
      consistent.listComponents_iff ∅ affected t
    refine ⟨labelled, touched, labelled_answer, touched_answer, fun c => ?_⟩
    have no_labels : c.labels.includes ∅ = true := rfl
    rw [member, labelled_member, touched_member]
    simp only [no_labels, Bool.false_eq_true, false_imp_iff, and_true, true_and]
    tauto
  · intro given asked regular c known
    exact affectingIncidents_ne_nil_iff given asked regular known

/-- The outage, and another component with a label. -/
def zonedOutage : List (Moment × Operation) :=
  outage ++ [(momentOf 5, .createComponent ⟨"Archive", (∅ : Labels).insert "zone" "north"⟩)]

/-- The component with the label is listed under it. The one without is not, but it is listed as
affected, and there is an incident whose window is active. -/
theorem listComponents_matches_zone :
    let s := empty.run zonedOutage
    let zone := (∅ : Labels).insert "zone" "north"
    let archive : Component := ⟨Uuid.ofNat 5, "Archive", zone⟩
    let service : Component := ⟨Uuid.ofNat 1, "Service", ∅⟩
    (∀ step ∈ zonedOutage, step.2.TimesIn Instant.FourDigitYear) ∧
      (∀ u ∈ some Instant.epoch, u.FourDigitYear) ∧ (∀ u ∈ some Instant.epoch, u.Regular) ∧
      (∃ listed, s.listComponents ⟨zone, false, some Instant.epoch⟩ = .ok listed ∧
        archive ∈ listed ∧ service ∉ listed) ∧
      (∃ listed, s.listComponents ⟨∅, true, some Instant.epoch⟩ = .ok listed ∧
        service ∈ listed) ∧
      ∃ i, s.getIncident i.id = .ok (some i) ∧ i.window.isActive (some Instant.epoch) = true := by
  intro s zone archive service
  have given : ∀ step ∈ zonedOutage, step.2.TimesIn Instant.FourDigitYear := by decide
  have asked : ∀ u ∈ some Instant.epoch, u.FourDigitYear := by decide
  have regular : ∀ u ∈ some Instant.epoch, u.Regular := by decide
  have archive_found : s.getComponent archive.id = .ok (some archive) := by decide +kernel
  have service_found : s.getComponent service.id = .ok (some service) := by decide +kernel
  obtain ⟨listed, answer, -, -, member, -⟩ :=
    listComponents_matches zonedOutage zone false (some Instant.epoch)
  obtain ⟨touched, touched_answer, -, -, touched_member, -, -, -, affected⟩ :=
    listComponents_matches zonedOutage ∅ true (some Instant.epoch)
  have active := (affected given asked regular service.id (by decide +kernel)).2
    ⟨⟨Uuid.ofNat 3, "Outage", "", Instant.epoch, none, ⟨1, 0⟩⟩, outageContent, by decide +kernel,
      by decide, by decide +kernel, ⟨Uuid.ofNat 1, Uuid.ofNat 2, 100⟩, by decide, rfl⟩
  refine ⟨given, asked, regular, ⟨listed, answer, ?_, ?_⟩, ⟨touched, touched_answer, ?_⟩, ?_⟩
  · exact (member archive).2 ⟨archive_found, by decide +kernel, by simp⟩
  · intro shown
    obtain ⟨-, includes, -⟩ := (member service).1 shown
    exact absurd includes (by decide +kernel)
  · exact (touched_member service).2 ⟨service_found, rfl, fun _ => active⟩
  · obtain ⟨i, -, read, window, -⟩ :=
      (affected given asked regular service.id (by decide +kernel)).1 active
    exact ⟨i, read, window⟩

end Store

end StatusPage
