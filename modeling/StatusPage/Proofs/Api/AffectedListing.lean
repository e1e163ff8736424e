import Mathlib
import StatusPage.Api.Service
import StatusPage.Proofs.Store.ImpactViews
import StatusPage.Proofs.Store.LastWrite

/-!
# Affected components on the page

The page asks the store which components are affected and then, for each of them, with which
impacts. In a reachable store the second answer is never empty: the listing of affected components
shows those components that are shown with some impact when they are asked for by themselves, and it
shows them in the same way.
-/

namespace StatusPage

open Store Http Json Text

namespace Api

/-! ## Listings -/

/-- If every element gives a value, the values are those of the elements. -/
theorem exists_mapM_ok {α β ε : Type} {f : α → Except ε β} {l : List α}
    (each : ∀ a ∈ l, ∃ b, f a = .ok b) :
    ∃ bs, l.mapM f = .ok bs ∧ ∀ b, b ∈ bs ↔ ∃ a ∈ l, f a = .ok b := by
  induction l with
  | nil => exact ⟨[], rfl, by simp⟩
  | cons a rest ih =>
    obtain ⟨b, first⟩ := each a List.mem_cons_self
    obtain ⟨bs, others, member⟩ := ih fun c later => each c (List.mem_cons_of_mem _ later)
    refine ⟨b :: bs, ?_, ?_⟩
    · rw [List.mapM_cons, first, others]
      rfl
    · intro c
      rw [List.mem_cons, member, List.exists_mem_cons_iff, first, Except.ok.injEq, eq_comm]

variable {s : Store}

/-- A component is shown as it is, with what is read of its impacts. -/
theorem showComponent_of_ok {t : Option Instant} {c : Component}
    {affecting : List AffectingIncident}
    (read : s.affectingIncidents c.id t = .ok affecting) :
    showComponent s t c = .ok (c.view affecting) := by
  rw [showComponent, read]
  rfl

theorem affectedBy_view_eq_nil {c : Component} {affecting : List AffectingIncident} :
    (c.view affecting).affectedBy = [] ↔ affecting = [] :=
  List.map_eq_nil_iff

/-- Every component that is there is shown. -/
theorem exists_showComponent (h : s.Consistent) (t : Option Instant) {id : Uuid}
    (known : s.hasComponent id = true) :
    ∃ c v, s.getComponent id = .ok (some c) ∧ c.id = id ∧ showComponent s t c = .ok v ∧
      v.id = id := by
  obtain ⟨row, member, key⟩ := List.mem_map.1 (hasComponent_iff.1 known)
  obtain ⟨affecting, read, -⟩ := h.mem_affectingIncidents known t
  have found : s.getComponent id = .ok (some ⟨id, row.displayName, s.labelsOf id.text⟩) := by
    rw [h.getComponent_eq_some_iff, componentRow, ← key]
    exact ⟨rfl, member, rfl⟩
  exact ⟨_, _, found, rfl, showComponent_of_ok read, rfl⟩

/-- The page lists as affected the components that it shows with some impact. -/
theorem exists_showComponents (h : s.Consistent) (t : Option Instant) :
    ∃ views, showComponents s none true t = .ok views ∧
      ∀ v, v ∈ views ↔ v.affectedBy ≠ [] ∧
        ∃ c, s.getComponent v.id = .ok (some c) ∧ showComponent s t c = .ok v := by
  obtain ⟨listed, answer, member⟩ := h.listComponents_affected t
  have each : ∀ c ∈ listed, ∃ v, showComponent s t c = .ok v := by
    intro c c_member
    obtain ⟨-, affecting, read, -⟩ := (member c).1 c_member
    exact ⟨_, showComponent_of_ok read⟩
  obtain ⟨views, shown, view_member⟩ := exists_mapM_ok each
  refine ⟨views, ?_, ?_⟩
  · change (reported (s.listComponents ⟨∅, true, t⟩) >>= fun components =>
      components.mapM (showComponent s t)) = .ok views
    rw [answer]
    exact shown
  · intro v
    rw [view_member]
    constructor
    · intro shown_listed
      rcases shown_listed with ⟨c, c_member, view⟩
      obtain ⟨found, affecting, read, some_read⟩ := (member c).1 c_member
      rw [showComponent_of_ok read, Except.ok.injEq] at view
      subst view
      exact ⟨mt affectedBy_view_eq_nil.1 some_read, c, found, showComponent_of_ok read⟩
    · intro shown_affected
      rcases shown_affected with ⟨some_shown, c, found, view⟩
      have same : c.id = v.id := (h.getComponent_eq_some_iff.1 found).1
      have known := h.hasComponent_of_getComponent found
      obtain ⟨affecting, read, -⟩ := h.mem_affectingIncidents known t
      rw [← same] at read found
      rw [showComponent_of_ok read, Except.ok.injEq] at view
      subst view
      exact ⟨c, (member c).2 ⟨found, affecting, read, mt affectedBy_view_eq_nil.2 some_shown⟩,
        showComponent_of_ok read⟩

/-! ## Requests -/

/-- Only a request for the headers gets another response than the whole one. -/
theorem serve_eq_serveWhole {m : Moment} {r : Request} (whole : r.method ≠ .head) :
    serve m s r = serveWhole m s r := by
  unfold serve
  dsimp only
  rw [if_neg whole]

/-- A request for a whole response is answered as the call that it makes. -/
theorem serve_of_call {m : Moment} {r : Request} {call : Call} (whole : r.method ≠ .head)
    (asked : Call.ofRequest r = .ok call) : serve m s r = call.answer m s := by
  rw [serve_eq_serveWhole whole, serveWhole, asked]

theorem readAnswer_ok {α : Type} (s : Store) (c : Codec α) (a : α) :
    readAnswer s c (.ok a) = (⟨200, some (c.write a)⟩, s) := rfl

/-- In every reachable store and at any instant or none: an incident is shown with an impact on a
component exactly if the component is shown with it, and the components listed as affected are those
that are shown with some impact. So the page, asked for the affected components, lists none without
an impact and leaves out those that it shows without one when they are asked for by themselves. -/
theorem impact_views_agree (reachable : s.Reachable) (t : Option Instant) :
    (∀ i c : Uuid, s.hasIncident i = true → s.hasComponent c = true →
        ∃ affected affecting, s.affectedComponents i t = .ok affected ∧
          s.affectingIncidents c t = .ok affecting ∧
          ∀ (impactType : Uuid) (severity : UInt8),
            ⟨c, impactType, severity⟩ ∈ affected ↔ ⟨i, impactType, severity⟩ ∈ affecting) ∧
      (∃ listed, s.listComponents ⟨∅, true, t⟩ = .ok listed ∧
        ∀ c, c ∈ listed ↔ s.getComponent c.id = .ok (some c) ∧
          ∃ affecting, s.affectingIncidents c.id t = .ok affecting ∧ affecting ≠ []) ∧
      ∀ (m : Moment) (all : Request), all.method = .get →
        Call.ofRequest all = .ok (.listComponents none true t) →
        ∃ views, serve m s all = (⟨200, some ((Codec.list .componentView).write views)⟩, s) ∧
          (∀ v ∈ views, v.affectedBy ≠ []) ∧
          ∀ (later : Moment) (one : Request) (id : Uuid), one.method = .get →
            Call.ofRequest one = .ok (.getComponent id t) → s.hasComponent id = true →
            ∃ v, serve later s one = (⟨200, some (Codec.componentView.write v)⟩, s) ∧ v.id = id ∧
              (v ∈ views ↔ v.affectedBy ≠ []) ∧ (id ∉ views.map (·.id) ↔ v.affectedBy = []) := by
  obtain ⟨operations, rfl⟩ := reachable
  have consistent := consistent_run .empty operations
  refine ⟨?_, consistent.listComponents_affected t, ?_⟩
  · intro i c known component
    exact consistent.affected_iff_affecting known component t
  · intro m all whole asked
    obtain ⟨views, shown, member⟩ := exists_showComponents consistent t
    refine ⟨views, ?_, fun v v_member => ((member v).1 v_member).1, ?_⟩
    · rw [serve_of_call (whole.trans_ne (by decide)) asked, Call.answer, shown, readAnswer_ok]
    · intro later one id one_whole one_asked known
      obtain ⟨c, v, found, rfl, view, same⟩ := exists_showComponent consistent t known
      have listed : v ∈ views ↔ v.affectedBy ≠ [] := by
        rw [member, same]
        exact and_iff_left ⟨c, found, view⟩
      refine ⟨v, ?_, same, listed, ?_⟩
      · rw [serve_of_call (one_whole.trans_ne (by decide)) one_asked, Call.answer, found]
        simp only [present, ok_bind, view, readAnswer_ok]
      · rw [← not_iff_not, not_not, ← ne_eq, ← listed, List.mem_map]
        constructor
        · intro listed_id
          rcases listed_id with ⟨w, w_member, w_id⟩
          -- The same component is shown in one way only.
          obtain ⟨-, other, other_found, other_view⟩ := (member w).1 w_member
          rw [w_id, found] at other_found
          cases other_found
          rw [view] at other_view
          cases other_view
          exact w_member
        · intro v_member
          exact ⟨v, v_member, same⟩

/-- The target with a path and a query. -/
def targetAt (path query : String)
    (fits : byteLength (Target.shortest path.toList query.toList) ≤ Target.longest) : Target :=
  ⟨path.toList, query.toList, fits⟩

/-- A request for what stands at a target. -/
def getRequest (target : Target) : Request :=
  ⟨.get, target, none, []⟩

/-- During the outage its component is shown with it, and listed as affected just when it is shown
with some impact. -/
theorem impact_views_agree_in_outage :
    let s := empty.run outage
    let all := getRequest <|
      targetAt "/api/components" "affected=true&at=1970-01-01T00:00:00Z" (by decide)
    let one := getRequest <|
      targetAt "/api/components/00000000-0000-0000-0000-000000000001" "at=1970-01-01T00:00:00Z"
        (by decide)
    s.Reachable ∧ s.hasIncident (Uuid.ofNat 3) = true ∧ s.hasComponent (Uuid.ofNat 1) = true ∧
      Call.ofRequest all = .ok (.listComponents none true (some Instant.epoch)) ∧
      Call.ofRequest one = .ok (.getComponent (Uuid.ofNat 1) (some Instant.epoch)) ∧
      (∃ affecting, s.affectingIncidents (Uuid.ofNat 1) (some Instant.epoch) = .ok affecting ∧
        ⟨Uuid.ofNat 3, Uuid.ofNat 2, 100⟩ ∈ affecting) ∧
      ∃ v views, serve (momentOf 0) s one = (⟨200, some (Codec.componentView.write v)⟩, s) ∧
        serve (momentOf 0) s all = (⟨200, some ((Codec.list .componentView).write views)⟩, s) ∧
        (v ∈ views ↔ v.affectedBy ≠ []) := by
  intro s all one
  have reachable : s.Reachable := ⟨outage, rfl⟩
  have incident : s.hasIncident (Uuid.ofNat 3) = true := by decide
  have component : s.hasComponent (Uuid.ofNat 1) = true := by decide
  have asked_all : Call.ofRequest all = .ok (.listComponents none true (some Instant.epoch)) := by
    decide +kernel
  have asked_one :
      Call.ofRequest one = .ok (.getComponent (Uuid.ofNat 1) (some Instant.epoch)) := by
    decide +kernel
  obtain ⟨ends, -, page⟩ := impact_views_agree reachable (some Instant.epoch)
  refine ⟨reachable, incident, component, asked_all, asked_one, ?_, ?_⟩
  · obtain ⟨affected, affecting, incident_answer, answer, same⟩ :=
      ends (Uuid.ofNat 3) (Uuid.ofNat 1) incident component
    have shown : s.affectedComponents (Uuid.ofNat 3) (some Instant.epoch) =
        .ok outageContent.impacts := by decide +kernel
    rw [shown] at incident_answer
    cases incident_answer
    exact ⟨affecting, answer, (same _ _).1 List.mem_cons_self⟩
  · obtain ⟨views, listed, -, shown⟩ := page (momentOf 0) all rfl asked_all
    obtain ⟨v, answer, -, member, -⟩ :=
      shown (momentOf 0) one (Uuid.ofNat 1) rfl asked_one component
    exact ⟨v, views, answer, listed, member⟩

end Api

end StatusPage
