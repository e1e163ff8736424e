import Mathlib
import StatusPage.Proofs.Api.AffectedListing
import StatusPage.Proofs.Api.SentBack
import StatusPage.Proofs.Provisioning.Again
import StatusPage.Proofs.Store.WriteBack

/-!
# Putting back what was read

A client that asks for an entity and puts the answer back at the same path changes nothing, except
that an incident that was read while its window was not active loses its impacts (`put_back`). At
one path both requests are about one entity (`exists_entityRoute`). The text of the answer is read
as the content that was shown, and for each kind of entity the store takes this content for what it
has. What takes more bytes than a body may have, and a collection, cannot be put back
(`put_back_refused`).
-/

namespace StatusPage

open Http Store Text
open Json (Codec)

namespace Api

/-! ## Calls at one path -/

theorem exists_route {r : Request} {call : Call} (asked : Call.ofRequest r = .ok call) :
    ∃ route, Route.ofPath? r.target.path = some route ∧ Call.atRoute r route = .ok call := by
  unfold Call.ofRequest at asked
  split at asked
  · next route found => exact ⟨route, found, asked⟩
  · cases asked

theorem ofRequest_eq {r : Request} {route : Route}
    (found : Route.ofPath? r.target.path = some route) :
    Call.ofRequest r = Call.atRoute r route := by
  rw [Call.ofRequest, found]

/-- Whether a call asks for one entity by its key. -/
def Call.asksForEntity : Call → Bool
  | .getComponent _ _ | .getImpactType _ | .getSeverity _ | .getIncident _ _ | .getUpdate _ _ =>
    true
  | _ => false

/-- What is put at a route is read in one form and makes a call. -/
def PutAt {α : Type} (route : Route) (c : Codec α) (write : α → Call) : Prop :=
  ∀ r : Request, r.method = .put → Call.atRoute r route = (readBody r c).map write

/-- Where an entity is asked for, its content can be put. -/
inductive EntityRoute (route : Route) : Call → Prop
  | component {id : Uuid} {t : Option Instant}
      (puts : PutAt route (.newComponent .camel) (.updateComponent id)) :
      EntityRoute route (.getComponent id t)
  | impactType {id : Uuid} (puts : PutAt route (.newImpactType .camel) (.updateImpactType id)) :
      EntityRoute route (.getImpactType id)
  | severity {name : String} (puts : PutAt route (.severitySeed .camel) (.updateSeverity name)) :
      EntityRoute route (.getSeverity name)
  | incident {id : Uuid} {t : Option Instant} (regular : ∀ u ∈ t, u.Regular)
      (puts : PutAt route .incidentBody (.updateIncident id)) :
      EntityRoute route (.getIncident id t)
  | update {id : Uuid} {order : UInt32}
      (puts : PutAt route (.newIncidentUpdate .camel) (.updateUpdate id order)) :
      EntityRoute route (.getUpdate id order)

/-- No query asks about a leap second inside a minute. -/
theorem regular_of_queryInstant {r : Request} {t : Option Instant} (read : queryInstant r = .ok t) :
    ∀ u ∈ t, u.Regular := by
  rintro u rfl
  unfold queryInstant queryValue at read
  split at read
  · cases read
  · cases read
  · split at read
    · next parsed =>
      cases read
      exact Instant.regular_of_parse? parsed
    · cases read

theorem entityRoute_of_get {r : Request} {route : Route} {call : Call} (whole : r.method = .get)
    (asked : Call.atRoute r route = .ok call) (single : call.asksForEntity = true) :
    EntityRoute route call := by
  cases route <;> simp only [Call.atRoute, whole, Method.answeredAs, bind_ok_iff] at asked
  case component part =>
    obtain ⟨id, key, t, -, same⟩ := asked
    cases same
    refine .component fun put written => ?_
    simp only [Call.atRoute, written, Method.answeredAs, key, ok_bind]
    rfl
  case impactType part =>
    obtain ⟨id, key, same⟩ := asked
    cases same
    refine .impactType fun put written => ?_
    simp only [Call.atRoute, written, Method.answeredAs, key, ok_bind]
    rfl
  case severity part =>
    obtain ⟨name, key, same⟩ := asked
    cases same
    refine .severity fun put written => ?_
    simp only [Call.atRoute, written, Method.answeredAs, key, ok_bind]
    rfl
  case incident part =>
    obtain ⟨id, key, t, read, same⟩ := asked
    cases same
    refine .incident (regular_of_queryInstant read) fun put written => ?_
    simp only [Call.atRoute, written, Method.answeredAs, key, ok_bind]
    rfl
  case update part last =>
    obtain ⟨id, key, order, number, same⟩ := asked
    cases same
    refine .update fun put written => ?_
    simp only [Call.atRoute, written, Method.answeredAs, key, number, ok_bind]
    rfl
  -- A collection, the phases and their generation are asked for by other calls.
  case components =>
    obtain ⟨_, -, _, -, _, -, same⟩ := asked
    cases same
    cases single
  case incidents =>
    obtain ⟨_, -, _, -, same⟩ := asked
    cases same
    cases single
  case phases =>
    obtain ⟨_, -, same⟩ := asked
    cases same
    cases single
  case updates part =>
    obtain ⟨_, -, same⟩ := asked
    cases same
    cases single
  all_goals
    cases asked
    cases single

/-- The calls of a put and of a get at one path are read from the same route. -/
theorem exists_entityRoute {get put : Request} {call : Call} (whole : get.method = .get)
    (asked : Call.ofRequest get = .ok call) (single : call.asksForEntity = true)
    (path : put.target.path = get.target.path) :
    ∃ route, EntityRoute route call ∧ Call.ofRequest put = Call.atRoute put route := by
  obtain ⟨route, found, at_route⟩ := exists_route asked
  rw [← path] at found
  exact ⟨route, entityRoute_of_get whole at_route single, ofRequest_eq found⟩

/-! ## Answers -/

section Answers

variable {s : Store} {α β : Type}

theorem isSuccess_failure (failure : Failure) : failure.response.isSuccess = false := by
  change (200 ≤ statusOf failure.kind && statusOf failure.kind < 300) = false
  cases failure.kind <;> rfl

/-- A success is answered with what was found. -/
theorem exists_of_isSuccess {status : Nat} {c : Codec α} {found : Except Failure α} {b : Json}
    (success : (responseOf status c found).isSuccess = true)
    (body : (responseOf status c found).body = some b) : ∃ a, found = .ok a ∧ b = c.write a := by
  cases found with
  | ok a =>
    cases body
    exact ⟨a, rfl, rfl⟩
  | error failure =>
    rw [responseOf, isSuccess_failure] at success
    cases success

theorem exists_of_responseOf {c : Codec α} {found : Except Failure α} {b : Json}
    (shown : responseOf 200 c found = ⟨200, some b⟩) : ∃ a, found = .ok a ∧ b = c.write a :=
  exists_of_isSuccess (congrArg Response.isSuccess shown) (congrArg Response.body shown)

theorem present_ok_iff {subject : Subject} {found : Except Fault (Option α)} {a : α} :
    present subject found = .ok a ↔ found = .ok (some a) := by
  cases found with
  | error fault => simp [present]
  | ok read => cases read <;> simp [present]

/-- A write that went through is answered with what is shown of it. -/
theorem writeAnswer_ok {c : Codec β} {o : Outcome α} {a : α} {next : Store} {b : β}
    {view : Store → α → Except Failure β} (answer : o = ⟨.ok a, next⟩)
    (shown : view next a = .ok b) : writeAnswer 200 c o view = (⟨200, some (c.write b)⟩, next) := by
  subst answer
  change (responseOf 200 c (view next a), next) = _
  rw [shown]
  rfl

end Answers

/-! ## One entity of each kind -/

/-- What a store is left as by putting back what a call has read from it. The impacts of an incident
that was read while its window was not active are gone. -/
def Restores (s : Store) (call : Call) (next : Store) : Prop :=
  match call with
  | .getComponent _ _ => next.SameRows s
  | .getIncident id t => ∃ i, s.getIncident id = .ok (some i) ∧
      ((∀ u ∈ t, u.FourDigitYear) →
        (next.SameRows s ↔ i.window.isActive t = true ∨ s.impactsOf id = []) ∧
        (¬ (i.window.isActive t = true ∨ s.impactsOf id = []) →
          next = { s with impacts := s.impacts.filter fun m => m.incident ≠ id.text }))
  | _ => next = s

/-- A body that was read makes a call that is answered with a success and restores the store. -/
def GoesThrough {α : Type} (m : Moment) (s : Store) (r : Request) (c : Codec α) (write : α → Call)
    (read : Call) : Prop :=
  ∃ body answer next, readBody r c = .ok body ∧
    (write body).answer m s = (⟨200, some answer⟩, next) ∧ Restores s read next

section Kinds

variable {s : Store} (h : s.Consistent) {m later : Moment} {b : Json} {put : Request}
  (back : SendsBack put b) (fits : put.body.length ≤ longestBody)

include h back fits

theorem component_goesThrough {id : Uuid} {t : Option Instant}
    (shown : ((Call.getComponent id t).answer m s).1 = ⟨200, some b⟩) :
    GoesThrough later s put (.newComponent .camel) (.updateComponent id) (.getComponent id t) := by
  obtain ⟨v, found, rfl⟩ := exists_of_responseOf shown
  obtain ⟨c, present, view⟩ := bind_ok_iff.1 found
  rw [present_ok_iff] at present
  obtain ⟨affecting, -, rfl⟩ := map_ok_iff.1 view
  have body :=
    readBody_write back fits Codec.lossless_componentView.small (Codec.read_newComponent _)
  have known := h.hasComponent_of_getComponent present
  obtain ⟨current, read, -⟩ := h.mem_affectingIncidents known none
  obtain ⟨same, -, -⟩ := h.getComponent_eq_some_iff.1 present
  have next_read : (s.setLabels id c.labels).affectingIncidents c.id none = .ok current := by
    rw [same]
    exact read
  have answered : Call.answer later s (.updateComponent id ⟨c.displayName, c.labels⟩) =
      (⟨200, some (Codec.componentView.write (c.view current))⟩, s.setLabels id c.labels) := by
    rw [Call.answer]
    refine writeAnswer_ok (h.updateComponent_read present) ?_
    exact showComponent_of_ok next_read
  exact ⟨_, _, _, body, answered, h.sameRows_setLabels present⟩

theorem impactType_goesThrough {id : Uuid}
    (shown : ((Call.getImpactType id).answer m s).1 = ⟨200, some b⟩) :
    GoesThrough later s put (.newImpactType .camel) (.updateImpactType id)
      (.getImpactType id) := by
  obtain ⟨t, found, rfl⟩ := exists_of_responseOf shown
  rw [present_ok_iff] at found
  have body :=
    readBody_write back fits (Codec.lossless_impactType .camel).small (Codec.read_newImpactType t)
  exact ⟨_, _, _, body, writeAnswer_ok (h.updateImpactType_read found) rfl, rfl⟩

theorem severity_goesThrough {name : String}
    (shown : ((Call.getSeverity name).answer m s).1 = ⟨200, some b⟩) :
    GoesThrough later s put (.severitySeed .camel) (.updateSeverity name) (.getSeverity name) := by
  obtain ⟨v, found, rfl⟩ := exists_of_responseOf shown
  rw [present_ok_iff] at found
  have body :=
    readBody_write back fits (Codec.lossless_severity .camel).small (Codec.read_severitySeed v)
  obtain ⟨-, visible, scale, -⟩ := h.exists_severity_row found
  have content : SeveritySeed.severity ⟨v.displayName, v.value.toNat⟩ = .ok v :=
    Severity.make_ok_iff.2 ⟨visible, scale, rfl⟩
  have answered : Call.answer later s (.updateSeverity name ⟨v.displayName, v.value.toNat⟩) =
      (⟨200, some ((Codec.severity .camel).write v)⟩, s) := by
    rw [Call.answer, content]
    exact writeAnswer_ok (h.updateSeverity_read found) rfl
  exact ⟨_, _, _, body, answered, rfl⟩

theorem update_goesThrough {id : Uuid} {order : UInt32}
    (shown : ((Call.getUpdate id order).answer m s).1 = ⟨200, some b⟩) :
    GoesThrough later s put (.newIncidentUpdate .camel) (.updateUpdate id order)
      (.getUpdate id order) := by
  obtain ⟨u, found, rfl⟩ := exists_of_responseOf shown
  rw [present_ok_iff] at found
  have body :=
    readBody_write back fits (Codec.settles_incidentUpdate .camel).small
      (Codec.read_newIncidentUpdate u)
  exact ⟨_, _, _, body, writeAnswer_ok (h.updateUpdate_read found) rfl, rfl⟩

omit h back fits in
/-- The impacts of a view are those of the incident, if they are on the scale. -/
theorem incident_body {i : Incident} {affects : List Impact} {updates : List IncidentUpdate}
    (scale : ∀ impact ∈ affects, impact.severity.toNat ≤ 100) :
    (i.view affects updates).body.incident = .ok (i.content affects) := by
  have impacts : impactsOf ((affects.map Impact.ref).map ImpactRef.body) = .ok affects := by
    induction affects with
    | nil => rfl
    | cons impact rest ih =>
      obtain ⟨first, others⟩ := List.forall_mem_cons.1 scale
      have made : Impact.make impact.component impact.impactType impact.severity.toNat =
          .ok impact := map_ok_iff.2 ⟨impact.severity, checkSeverity_ok_iff.2 ⟨first, rfl⟩, rfl⟩
      change (Impact.make impact.component impact.impactType impact.severity.toNat >>= fun first =>
        impactsOf ((rest.map Impact.ref).map ImpactRef.body) >>= fun others =>
          .ok (first :: others)) = _
      rw [made, ok_bind, ih others, ok_bind]
  change (impactsOf ((affects.map Impact.ref).map ImpactRef.body)).map _ = _
  rw [impacts]
  rfl

omit h back fits in
/-- An incident is shown with the impacts in force and its updates. -/
theorem showIncident_ok_iff {i : Incident} {t : Option Instant} {v : IncidentView} :
    showIncident s t i = .ok v ↔ ∃ affects updates, s.affectedComponents i.id t = .ok affects ∧
      s.listUpdates i.id = .ok updates ∧ i.view affects updates = v := by
  simp only [showIncident, reported, bind_ok_iff, mapError_ok_iff]
  constructor
  · rintro ⟨affects, affected, updates, listed, same⟩
    exact ⟨affects, updates, affected, listed, Except.ok.inj same⟩
  · rintro ⟨affects, updates, affected, listed, rfl⟩
    exact ⟨affects, affected, updates, listed, rfl⟩

omit back fits in
/-- An incident that was shown is shown again after an update that changes its impacts only. -/
theorem exists_showIncident_again {i : Incident} {t : Option Instant} {v : IncidentView}
    {input : NewIncident} {impacts : Table ImpactRow} (known : s.hasIncident i.id = true)
    (shown : showIncident s t i = .ok v)
    (updated : s.updateIncident i.id input = ⟨.ok i, { s with impacts }⟩) :
    ∃ again, showIncident { s with impacts } none i = .ok again := by
  have next := h.effect (updateIncident_effect ⟨Instant.epoch, fun _ => i.id⟩ s i.id input)
  rw [updated] at next
  obtain ⟨current, read, -⟩ := next.mem_affectedComponents known none
  obtain ⟨-, updates, -, listed, -⟩ := showIncident_ok_iff.1 shown
  exact ⟨_, showIncident_ok_iff.2 ⟨current, updates, read, listed, rfl⟩⟩

theorem incident_goesThrough (ordered : s.OrderedWindows) {id : Uuid} {t : Option Instant}
    (regular : ∀ u ∈ t, u.Regular)
    (shown : ((Call.getIncident id t).answer m s).1 = ⟨200, some b⟩) :
    GoesThrough later s put .incidentBody (.updateIncident id) (.getIncident id t) := by
  obtain ⟨v, found, rfl⟩ := exists_of_responseOf shown
  obtain ⟨i, present, view⟩ := bind_ok_iff.1 found
  rw [present_ok_iff] at present
  obtain ⟨impacts, affected, admitted, updated, restored⟩ := h.exists_affected ordered present t
  obtain ⟨old, there, rfl, bounds, -, rfl⟩ := ordered.exists_of_getIncident present
  have known : s.hasIncident old.kept.id = true := by
    rw [← findIncident_isSome]
    exact congrArg Option.isSome there
  obtain ⟨again, again_shown⟩ := exists_showIncident_again h known view updated
  obtain ⟨affects, updates, affects_read, -, rfl⟩ := showIncident_ok_iff.1 view
  obtain rfl : impacts = affects := Except.ok.inj (affected.symm.trans affects_read)
  have seconds : (old.kept.view impacts updates).settle = old.kept.view impacts updates :=
    IncidentView.settle_eq_self_iff.2 (Incident.timesIn_kept (bounds.imp fun t _ => t.regular_kept))
  have body := readBody_write back fits Codec.settles_incidentView.small
    (Codec.read_incidentBody (old.kept.view impacts updates))
  rw [seconds] at body
  have content : (old.kept.view impacts updates).body.incident =
      .ok (old.kept.content impacts) :=
    incident_body fun impact member => (admitted impact member).2.2
  have answered : Call.answer later s
      (.updateIncident old.id (old.kept.view impacts updates).body) =
      (⟨200, some (Codec.incidentView.write again)⟩,
        { s with impacts := s.impactsFor old.id impacts }) := by
    rw [Call.answer, content, accepting]
    refine writeAnswer_ok updated ?_
    exact again_shown
  refine ⟨_, _, _, body, answered, old.kept, present, ?_⟩
  intro asked
  have restored := restored asked
  rw [Instant.map_settle_eq_self_iff.2 regular] at restored
  split at restored
  · next active =>
    exact ⟨iff_of_true restored (Or.inl active), fun other => absurd (Or.inl active) other⟩
  · next idle =>
    subst restored
    rw [or_iff_right idle]
    exact ⟨sameRows_dropImpacts_iff, fun _ => rfl⟩

end Kinds

/-! ## Putting back -/

/-- In every reachable store: what a get shows of a single entity can be put back at the same path,
if it is no longer than a body may be. The put is answered with a success and leaves the rows that
were there. Only an incident that was shown for an instant at which its window is not active loses
its impacts, and nothing else changes. -/
theorem put_back {s : Store} (reachable : s.Reachable) (m later : Moment) {get put : Request}
    {call : Call} {b : Json} (whole : get.method = .get) (asked : Call.ofRequest get = .ok call)
    (single : call.asksForEntity = true) (shown : (serve m s get).1 = ⟨200, some b⟩)
    (written : put.method = .put) (path : put.target.path = get.target.path)
    (back : SendsBack put b) (fits : put.body.length ≤ longestBody) :
    (serve later s put).1.status = 200 ∧ Restores s call (serve later s put).2 := by
  obtain ⟨operations, rfl⟩ := reachable
  have h := consistent_run .empty operations
  have ordered := OrderedWindows.run_empty operations
  generalize empty.run operations = s at h ordered shown ⊢
  obtain ⟨route, entity, same⟩ := exists_entityRoute whole asked single path
  rw [serve_of_call (whole.trans_ne (by decide)) asked] at shown
  have through {α : Type} {c : Codec α} {write : α → Call} (puts : PutAt route c write)
      (goes : GoesThrough later s put c write call) :
      (serve later s put).1.status = 200 ∧ Restores s call (serve later s put).2 := by
    obtain ⟨body, answer, next, read, answered, restores⟩ := goes
    have makes : Call.ofRequest put = .ok (write body) := by
      rw [same, puts put written, read]
      rfl
    rw [serve_of_call (written.trans_ne (by decide)) makes, answered]
    exact ⟨rfl, restores⟩
  cases entity with
  | component puts => exact through puts (component_goesThrough h back fits shown)
  | impactType puts => exact through puts (impactType_goesThrough h back fits shown)
  | severity puts => exact through puts (severity_goesThrough h back fits shown)
  | incident regular puts =>
    exact through puts (incident_goesThrough h back fits ordered regular shown)
  | update puts => exact through puts (update_goesThrough h back fits shown)

/-- A request with a body, as JSON. -/
def putRequest (target : Target) (j : Json) : Request :=
  ⟨.put, target, some "application/json", utf8Encode j.write⟩

theorem sendsBack_putRequest (target : Target) (j : Json) : SendsBack (putRequest target j) j :=
  ⟨(by decide +kernel : (some "application/json").any MediaType.isJson = true), rfl⟩

/-- The outage as it is shown a second before it began. -/
def outageAhead : IncidentView :=
  (outageContent.withId (Uuid.ofNat 3) ⟨1, 0⟩).view [] []

/-- The outage is put back as it is shown a second before it began: exactly its impacts are gone. -/
theorem put_back_outage_ahead :
    let s := empty.run outage
    let get := getRequest <|
      targetAt "/api/incidents/00000000-0000-0000-0000-000000000003" "at=1969-12-31T23:59:59Z"
        (by decide)
    let put := putRequest
      (targetAt "/api/incidents/00000000-0000-0000-0000-000000000003" "" (by decide))
      (Codec.incidentView.write outageAhead)
    s.Reachable ∧
      (serve (momentOf 0) s get).1 = ⟨200, some (Codec.incidentView.write outageAhead)⟩ ∧
      put.body.length ≤ longestBody ∧ s.impactsOf (Uuid.ofNat 3) ≠ [] ∧
      (serve (momentOf 0) s put).1.status = 200 ∧
      (serve (momentOf 0) s put).2 =
        { s with impacts := s.impacts.filter fun m => m.incident ≠ (Uuid.ofNat 3).text } := by
  intro s get put
  have reachable : s.Reachable := ⟨outage, rfl⟩
  have asked : Call.ofRequest get =
      .ok (.getIncident (Uuid.ofNat 3) (Instant.ofSecond? (-1) 0)) := by decide +kernel
  have stored : s.getIncident (Uuid.ofNat 3) =
      .ok (some (outageContent.withId (Uuid.ofNat 3) ⟨1, 0⟩)) := by decide +kernel
  have view : showIncident s (Instant.ofSecond? (-1) 0)
      (outageContent.withId (Uuid.ofNat 3) ⟨1, 0⟩) = .ok outageAhead := by decide +kernel
  have shown : (serve (momentOf 0) s get).1 =
      ⟨200, some (Codec.incidentView.write outageAhead)⟩ := by
    have whole : get.method ≠ .head := by decide
    rw [serve_of_call whole asked, Call.answer, stored, present, ok_bind, view, readAnswer_ok]
  have fits : put.body.length ≤ longestBody := by decide +kernel
  have impacts : s.impactsOf (Uuid.ofNat 3) ≠ [] := by decide +kernel
  have written : put.method = .put := rfl
  have path : put.target.path = get.target.path := rfl
  have back : SendsBack put (Codec.incidentView.write outageAhead) := sendsBack_putRequest _ _
  obtain ⟨status, i, read, restored⟩ := put_back reachable (momentOf 0) (momentOf 0) rfl asked rfl
    shown written path back fits
  rw [stored] at read
  cases read
  have year : ∀ u ∈ Instant.ofSecond? (-1) 0, u.FourDigitYear := by decide +kernel
  have gone : ¬ ((outageContent.withId (Uuid.ofNat 3) ⟨1, 0⟩).window.isActive
      (Instant.ofSecond? (-1) 0) = true ∨ s.impactsOf (Uuid.ofNat 3) = []) := by
    rw [not_or]
    exact ⟨by decide +kernel, impacts⟩
  exact ⟨reachable, shown, fits, impacts, status, (restored year).2 gone⟩

/-! ## Bodies that are too long -/

/-- What takes more bytes than a body may have cannot be put back. -/
theorem serve_of_oversized {s : Store} (later : Moment) {get put : Request} {call : Call}
    (whole : get.method = .get) (asked : Call.ofRequest get = .ok call)
    (single : call.asksForEntity = true) (written : put.method = .put)
    (path : put.target.path = get.target.path)
    (json : put.contentType.any MediaType.isJson = true) (long : longestBody < put.body.length) :
    serve later s put = (⟨413, none⟩, s) := by
  have refused {α : Type} (c : Codec α) : readBody put c = .error .oversizedBody := by
    simp [readBody, json, long]
  obtain ⟨route, entity, same⟩ := exists_entityRoute whole asked single path
  have rejected : Call.ofRequest put = .error .oversizedBody := by
    rw [same]
    cases entity with
    | component puts | impactType puts | severity puts | incident _ puts | update puts =>
      rw [puts put written, refused]
      rfl
  rw [serve_eq_serveWhole (written.trans_ne (by decide)), serveWhole, rejected]
  rfl

/-- An impact type takes more bytes than its description has characters. -/
theorem length_impactType_body (t : ImpactType) :
    t.description.length < (utf8Encode ((Codec.impactType .camel).write t).write).length := by
  have written : ((Codec.impactType .camel).write t).write =
      '{' :: (Json.writeString "id" ++ ':' :: (Codec.uuid.write t.id).write ++ ',' ::
        (Json.writeString "displayName" ++ ':' :: Json.writeString t.displayName ++ ',' ::
          (Json.writeString "description" ++ ':' :: Json.writeString t.description ++ ['}']))) :=
    rfl
  have description := Json.length_le_writeString t.description
  refine Nat.lt_of_lt_of_le ?_ (length_le_utf8Encode _)
  rw [written]
  simp only [List.length_cons, List.length_append]
  omega

/-- An impact type that is created in a store without any is the one that is found. -/
theorem getImpactType_created {m : Moment} {input : NewImpactType}
    (visible : Visible input.displayName) :
    (empty.run [(m, .createImpactType input)]).getImpactType m.id =
      .ok (some (input.withId m.id)) := by
  let row : ImpactTypeRow := ⟨some m.id.text, input.displayName, input.description⟩
  have found : [row].find? (fun t => t.id == some m.id.text) = some row :=
    List.find?_cons_of_pos (beq_self_eq_true _)
  change (empty.createImpactType m.id input).store.getImpactType m.id = _
  rw [createImpactType_of_fresh visible rfl]
  change Except.ok (([row].find? fun t => t.id == some m.id.text).map _) = _
  rw [found]
  rfl

/-- The target of the impact type that is created under number 2. -/
def impactTypeTarget : Target :=
  targetAt "/api/impact-types/00000000-0000-0000-0000-000000000002" "" (by decide)

theorem ofRequest_impactTypeTarget :
    Call.ofRequest (getRequest impactTypeTarget) = .ok (.getImpactType (Uuid.ofNat 2)) := by
  decide +kernel

/-- An impact type with a long description is shown, but not taken back. -/
theorem serve_long_impactType {description : String} (long : longestBody ≤ description.length) :
    let s := empty.run [(momentOf 2, .createImpactType ⟨"Down", description⟩)]
    let b := (Codec.impactType .camel).write ⟨Uuid.ofNat 2, "Down", description⟩
    (serve (momentOf 0) s (getRequest impactTypeTarget)).1 = ⟨200, some b⟩ ∧
      serve (momentOf 0) s (putRequest impactTypeTarget b) = (⟨413, none⟩, s) := by
  intro s b
  have visible : Visible "Down" := by
    rw [visible_iff]
    decide
  have stored : s.getImpactType (Uuid.ofNat 2) =
      .ok (some ⟨Uuid.ofNat 2, "Down", description⟩) := getImpactType_created visible
  have bytes := length_impactType_body ⟨Uuid.ofNat 2, "Down", description⟩
  have back := sendsBack_putRequest impactTypeTarget b
  constructor
  · rw [serve_of_call (by decide) ofRequest_impactTypeTarget, Call.answer, stored, present,
      readAnswer_ok]
  · exact serve_of_oversized (momentOf 0) rfl ofRequest_impactTypeTarget rfl rfl rfl
      back.contentType (Nat.lt_of_le_of_lt long bytes)

/-- What a get has shown can be put back, when a condition on its call and on the put holds. -/
def PutBackAnswered (holds : Call → Request → Prop) : Prop :=
  ∀ (s : Store) (m later : Moment) (get put : Request) (call : Call) (b : Json), s.Reachable →
    get.method = .get → Call.ofRequest get = .ok call →
    (serve m s get).1 = ⟨200, some b⟩ → put.method = .put →
    put.target.path = get.target.path → SendsBack put b → holds call put →
    (serve later s put).1.status = 200

/-- Not every entity can be put back, since one with a long description takes more bytes than a body
may have. Nor can everything that fits into a body: the components are shown, and none of them in an
empty store, but their path knows no put. -/
theorem put_back_refused :
    ¬ PutBackAnswered (fun call _ => call.asksForEntity = true) ∧
      ¬ PutBackAnswered (fun _ put => put.body.length ≤ longestBody) := by
  constructor
  · intro answered
    have long : longestBody ≤ (String.ofList (List.replicate longestBody 'a')).length := by
      rw [String.length_ofList, List.length_replicate]
    obtain ⟨shown, refused⟩ := serve_long_impactType long
    have status := answered _ (momentOf 0) (momentOf 0) _ (putRequest impactTypeTarget _) _ _
      ⟨_, rfl⟩ rfl ofRequest_impactTypeTarget shown rfl rfl (sendsBack_putRequest _ _) rfl
    rw [refused] at status
    cases status
  · intro answered
    let target := targetAt "/api/components" "" (by decide)
    let get := getRequest target
    let put := putRequest target (.array [])
    have asked : Call.ofRequest get = .ok (.listComponents none false none) := by decide +kernel
    have none_listed : showComponents empty none false none = .ok [] := by decide +kernel
    have whole : get.method ≠ .head := by decide
    have shown : (serve (momentOf 0) empty get).1 = ⟨200, some (.array [])⟩ := by
      rw [serve_of_call whole asked, Call.answer, none_listed, readAnswer_ok]
      rfl
    have written : put.method = .put := rfl
    have path : put.target.path = get.target.path := rfl
    have fits : put.body.length ≤ longestBody := by decide +kernel
    have status := answered empty (momentOf 0) (momentOf 0) get put _ _ ⟨[], rfl⟩ rfl asked shown
      written path (sendsBack_putRequest _ _) fits
    have refused : (serve (momentOf 0) empty put).1.status = 405 := by decide +kernel
    rw [refused] at status
    cases status

end Api

end StatusPage
