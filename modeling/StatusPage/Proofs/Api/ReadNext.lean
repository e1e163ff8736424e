import Mathlib
import StatusPage.Proofs.Api.Answers
import StatusPage.Proofs.Api.EntityPaths
import StatusPage.Proofs.Api.PutBack
import StatusPage.Proofs.Store.Deletions
import StatusPage.Proofs.Store.StoredPrecision

/-!
# The answer to a write is what is read next

A write is answered from what it has at hand: a new component without a look at the impacts, an
update with the number and the clock of the call, a severity as it was given, and the others from
the rows of the transaction. A get puts its answer together by queries of its own. `Reports` says
what a store has to tell of an entity, and both come to it: a get answers with nothing else
(`Reports.answer`), and each of the ten writes is answered with what the store that it leaves
reports (`Writing.answers`). `answer_is_read_next` says so of every history of a page. A name can be
given to a severity that no request has room for, so not every answer can be read again
(`severity_out_of_reach`).
-/

namespace StatusPage

open Http Store Text
open Json (Codec)

namespace Api

/-! ## What a store reports -/

/-- What a store has to tell of an entity as it is now, in the form of an answer. -/
inductive Reports (s : Store) : Subject → Json → Prop
  | component {c : Component} {affecting : List AffectingIncident}
      (read : s.getComponent c.id = .ok (some c))
      (affected : s.affectingIncidents c.id none = .ok affecting) :
      Reports s (.component c.id) (Codec.componentView.write (c.view affecting))
  | impactType {t : ImpactType} (read : s.getImpactType t.id = .ok (some t)) :
      Reports s (.impactType t.id) ((Codec.impactType .camel).write t)
  | severity {v : Severity} (read : s.getSeverity v.displayName = .ok (some v)) :
      Reports s (.severity v.displayName) ((Codec.severity .camel).write v)
  | incident {i : Incident} {affects : List Impact} {updates : List IncidentUpdate}
      (read : s.getIncident i.id = .ok (some i))
      (affected : s.affectedComponents i.id none = .ok affects)
      (listed : s.listUpdates i.id = .ok updates) :
      Reports s (.incident i.id) (Codec.incidentView.write (i.view affects updates))
  | update {u : IncidentUpdate} (read : s.getUpdate u.incident u.order = .ok (some u)) :
      Reports s (.update u.incident u.order) ((Codec.incidentUpdate .camel).write u)

section Reporting

variable {s : Store} {subject : Subject} {b : Json}

/-- The call for an entity is answered with what the store reports of it. -/
theorem Reports.answer (m : Moment) (reports : Reports s subject b) :
    subject.get.answer m s = (⟨200, some b⟩, s) := by
  cases reports with
  | component read affected =>
    rw [Subject.get, Call.answer, present_ok_iff.2 read, ok_bind, showComponent_of_ok affected,
      readAnswer_ok]
  | impactType read => rw [Subject.get, Call.answer, present_ok_iff.2 read, readAnswer_ok]
  | severity read => rw [Subject.get, Call.answer, present_ok_iff.2 read, readAnswer_ok]
  | incident read affected listed =>
    rw [Subject.get, Call.answer, present_ok_iff.2 read, ok_bind,
      showIncident_ok_iff.2 ⟨_, _, affected, listed, rfl⟩, readAnswer_ok]
  | update read => rw [Subject.get, Call.answer, present_ok_iff.2 read, readAnswer_ok]

/-- Every entity of a store has a path, since no severity has an empty name. -/
theorem Reports.named (h : s.Consistent) (reports : Reports s subject b) :
    subject ≠ .severity "" := by
  rintro rfl
  generalize name : "" = empty_name at reports
  cases reports with
  | severity read =>
    obtain ⟨-, visible, -⟩ := h.exists_severity_row read
    rw [← name, visible_iff] at visible
    exact absurd visible (by decide)

/-- What is reported in the form of an update is the update at its place. -/
theorem Reports.subject_update {u : IncidentUpdate}
    (reports : Reports s subject ((Codec.incidentUpdate .camel).write u)) :
    subject = .update u.incident u.order := by
  generalize same : (Codec.incidentUpdate .camel).write u = b at reports
  cases reports with
  | update read =>
    have shown := (Codec.settles_incidentUpdate .camel).settle_eq same
    have incident := congrArg IncidentUpdate.incident shown
    have order := congrArg IncidentUpdate.order shown
    exact (congrArg₂ Subject.update incident order).symm
  -- The other forms begin with another name.
  | component | impactType | incident =>
    obtain ⟨first, -⟩ := List.cons.inj (Json.object.inj same)
    have name : "incidentId" = "id" := congrArg Prod.fst first
    exact absurd name (by decide)
  | severity =>
    obtain ⟨first, -⟩ := List.cons.inj (Json.object.inj same)
    have name : "incidentId" = "displayName" := congrArg Prod.fst first
    exact absurd name (by decide)

variable {α : Type}

/-- What is read as an entity is read as what the entity is made from. -/
theorem ok_of_read {found : Except Fault (Option α)} {entity : α → Entity}
    (injective : ∀ ⦃a b⦄, entity a = entity b → a = b) {a : α}
    (read : found.map (Option.map entity) = .ok (some (entity a))) : found = .ok (some a) := by
  obtain ⟨row, rfl, found⟩ := map_ok_iff.1 read
  obtain ⟨b, rfl, same⟩ := Option.map_eq_some_iff.1 found
  rw [injective same]

theorem reports_component {c : Component} {v : ComponentView}
    (read : s.read (.component c.id) = .ok (some (.component c)))
    (shown : showComponent s none c = .ok v) :
    Reports s (.component c.id) (Codec.componentView.write v) := by
  obtain ⟨affecting, reported_ok, rfl⟩ := map_ok_iff.1 shown
  exact .component (ok_of_read (fun _ _ => Entity.component.inj) read)
    (mapError_ok_iff.1 reported_ok)

theorem reports_incident {i : Incident} {v : IncidentView}
    (read : s.read (.incident i.id) = .ok (some (.incident i)))
    (shown : showIncident s none i = .ok v) :
    Reports s (.incident i.id) (Codec.incidentView.write v) := by
  obtain ⟨affects, updates, affected, listed, rfl⟩ := showIncident_ok_iff.1 shown
  exact .incident (ok_of_read (fun _ _ => Entity.incident.inj) read) affected listed

theorem reports_impactType {t : ImpactType}
    (read : s.read (.impactType t.id) = .ok (some (.impactType t))) :
    Reports s (.impactType t.id) ((Codec.impactType .camel).write t) :=
  .impactType (ok_of_read (fun _ _ => Entity.impactType.inj) read)

theorem reports_severity {v : Severity}
    (read : s.read (.severity v.displayName) = .ok (some (.severity v))) :
    Reports s (.severity v.displayName) ((Codec.severity .camel).write v) :=
  .severity (ok_of_read (fun _ _ => Entity.severity.inj) read)

/-- An update shows its time as the store has it. -/
theorem write_settle (u : IncidentUpdate) :
    (Codec.incidentUpdate .camel).write u.settle = (Codec.incidentUpdate .camel).write u := by
  have shown : Codec.instant.write u.settle.createdAt = Codec.instant.write u.createdAt :=
    congrArg Json.string u.createdAt.text_settle
  simp only [Codec.incidentUpdate, Json.Fields.codec, Json.Fields.write,
    Json.RecordField.required, shown]
  rfl

theorem reports_update {u : IncidentUpdate}
    (read : s.read (.update u.incident u.order) = .ok (some (Entity.update u).stored)) :
    Reports s (.update u.incident u.order) ((Codec.incidentUpdate .camel).write u) :=
  write_settle u ▸
    .update (u := u.settle) (ok_of_read (fun _ _ => Entity.update.inj) read)

end Reporting

/-! ## Writes at a route -/

/-- The entities that a write at a route can be about: one of the collection that it adds to, or the
one that the path names. A severity can get another name than the one in the path. -/
inductive WrittenAt : Route → Subject → Prop
  | added_component {id : Uuid} : WrittenAt .components (.component id)
  | added_impactType {id : Uuid} : WrittenAt .impactTypes (.impactType id)
  | added_severity {name : String} : WrittenAt .severities (.severity name)
  | added_incident {id : Uuid} : WrittenAt .incidents (.incident id)
  | added_update {part : String} {id : Uuid} {order : UInt32} (key : idSegment part = .ok id) :
      WrittenAt (.updates part) (.update id order)
  | renamed {part name : String} : WrittenAt (.severity part) (.severity name)
  | itself {route : Route} {subject : Subject} (names : route.subject? = some subject) :
      WrittenAt route subject

/-- What a write puts into its answer without having asked the store for it, and what the store then
says: nothing affects a new component, and a new update has the next number of its incident and the
time of the call, of which the store has what is kept. -/
def NotAskedFor (m : Moment) (s next : Store) (b : Json) : Route → Prop
  | .components => ∃ c : Component, b = Codec.componentView.write (c.view []) ∧
      next.affectingIncidents c.id none = .ok []
  | .updates _ => ∃ u : IncidentUpdate, b = (Codec.incidentUpdate .camel).write u ∧
      s.nextUpdateOrder u.incident = .ok u.order ∧ u.createdAt = m.now.truncate ∧
      next.getUpdate u.incident u.order = .ok (some { u with createdAt := m.now.kept })
  | _ => True

/-- The calls that write an entity at a route. -/
inductive Writing : Route → Call → Prop
  | createComponent {body : NewComponent} : Writing .components (.createComponent body)
  | updateComponent {part : String} {id : Uuid} {body : NewComponent}
      (key : idSegment part = .ok id) : Writing (.component part) (.updateComponent id body)
  | createImpactType {body : NewImpactType} : Writing .impactTypes (.createImpactType body)
  | updateImpactType {part : String} {id : Uuid} {body : NewImpactType}
      (key : idSegment part = .ok id) : Writing (.impactType part) (.updateImpactType id body)
  | createSeverity {body : SeveritySeed} : Writing .severities (.createSeverity body)
  | updateSeverity {part name : String} {body : SeveritySeed}
      (key : nameSegment part = .ok name) : Writing (.severity part) (.updateSeverity name body)
  | createIncident {body : IncidentBody} : Writing .incidents (.createIncident body)
  | updateIncident {part : String} {id : Uuid} {body : IncidentBody}
      (key : idSegment part = .ok id) : Writing (.incident part) (.updateIncident id body)
  | createUpdate {part : String} {id : Uuid} {body : NewIncidentUpdate}
      (key : idSegment part = .ok id) : Writing (.updates part) (.createUpdate id body)
  | updateUpdate {part last : String} {id : Uuid} {order : UInt32} {body : NewIncidentUpdate}
      (key : idSegment part = .ok id) (number : orderSegment last = .ok order) :
      Writing (.update part last) (.updateUpdate id order body)

theorem writing_of_post {r : Request} {route : Route} {call : Call} (post : r.method = .post)
    (entity : route ≠ .phases) (asked : Call.atRoute r route = .ok call) :
    Writing route call := by
  cases route <;> simp only [Call.atRoute, post, Method.answeredAs, bind_ok_iff] at asked
  case components =>
    obtain ⟨body, -, same⟩ := asked
    cases same
    exact .createComponent
  case impactTypes =>
    obtain ⟨body, -, same⟩ := asked
    cases same
    exact .createImpactType
  case severities =>
    obtain ⟨body, -, same⟩ := asked
    cases same
    exact .createSeverity
  case incidents =>
    obtain ⟨body, -, same⟩ := asked
    cases same
    exact .createIncident
  case updates part =>
    obtain ⟨id, key, body, -, same⟩ := asked
    cases same
    exact .createUpdate key
  case phases => exact absurd rfl entity
  -- The other routes know no post.
  all_goals cases asked

theorem writing_of_put {r : Request} {route : Route} {call : Call} (put : r.method = .put)
    (asked : Call.atRoute r route = .ok call) : Writing route call := by
  cases route <;> simp only [Call.atRoute, put, Method.answeredAs, bind_ok_iff] at asked
  case component part =>
    obtain ⟨id, key, body, -, same⟩ := asked
    cases same
    exact .updateComponent key
  case impactType part =>
    obtain ⟨id, key, body, -, same⟩ := asked
    cases same
    exact .updateImpactType key
  case severity part =>
    obtain ⟨name, key, body, -, same⟩ := asked
    cases same
    exact .updateSeverity key
  case incident part =>
    obtain ⟨id, key, body, -, same⟩ := asked
    cases same
    exact .updateIncident key
  case update part last =>
    obtain ⟨id, key, order, number, body, -, same⟩ := asked
    cases same
    exact .updateUpdate key number
  -- The other routes know no put.
  all_goals cases asked

/-! ## Writes -/

/-- Only a body that is accepted is answered with a success. -/
theorem exists_of_accepting {α : Type} {s : Store} {content : Except Error α} {next : α → Answered}
    (success : (accepting s content next).1.isSuccess = true) :
    ∃ a, content = .ok a ∧ accepting s content next = next a := by
  cases content with
  | ok a => exact ⟨a, rfl, rfl⟩
  | error error =>
    rw [accepting, isSuccess_failure] at success
    cases success

section Writes

variable {m : Moment} {s : Store} (h : s.Readable) (now : m.now.FourDigitYear) {b : Json}

include h now

/-- A write that is answered with a success has saved an entity, and it is answered with what is
shown of it. -/
theorem exists_of_writeAnswer {β : Type} (operation : Operation)
    (dated : operation.TimesIn Instant.FourDigitYear) {entity : operation.Result → Entity}
    (saved : ∀ result, operation.saved result = some (entity result)) {status : Nat} {c : Codec β}
    {view : Store → operation.Result → Except Failure β}
    (success : (writeAnswer status c (operation.perform m s) view).1.isSuccess = true)
    (body : (writeAnswer status c (operation.perform m s) view).1.body = some b) :
    ∃ result v, Carries m s operation (entity result) ∧
      (operation.perform m s).store.read (entity result).subject =
        .ok (some (entity result).stored) ∧
      view (operation.perform m s).store result = .ok v ∧ b = c.write v := by
  obtain ⟨v, shown, written⟩ := exists_of_isSuccess success body
  obtain ⟨result, answer, view_ok⟩ := bind_ok_iff.1 shown
  obtain ⟨carries, -, read⟩ :=
    h.read_of_saved m operation dated (mapError_ok_iff.1 answer) (saved result) now
  exact ⟨result, v, carries, read, view_ok, written⟩

variable {route : Route} {call : Call}

/-- A write at a route that is answered with a success is answered with what the store that it
leaves reports of an entity that the write is about. -/
theorem Writing.answers (writing : Writing route call)
    (dated : call.TimesIn Instant.FourDigitYear)
    (success : (call.answer m s).1.isSuccess = true)
    (body : (call.answer m s).1.body = some b) :
    ∃ subject, WrittenAt route subject ∧ Reports (call.answer m s).2 subject b ∧
      NotAskedFor m s (call.answer m s).2 b route := by
  cases writing with
  | @createComponent input =>
    obtain ⟨c, v, carries, read, shown, rfl⟩ :=
      exists_of_writeAnswer h now (.createComponent input) trivial (fun _ => rfl) success body
    have own : OwnComponent (s.createComponent m.id input).store m.id input := by
      rcases h.consistent.createComponent_own m input with ⟨fault, failed⟩ | own
      · rw [Call.answer, failed] at success
        cases success.symm.trans (isSuccess_failure (.store fault))
      · exact own
    cases shown
    cases carries
    have none_affect := own.unaffected none
    exact ⟨_, .added_component, reports_component read (showComponent_of_ok none_affect), _, rfl,
      none_affect⟩
  | @updateComponent part id input key =>
    obtain ⟨c, v, carries, read, shown, rfl⟩ :=
      exists_of_writeAnswer h now (.updateComponent id input) trivial (fun _ => rfl) success body
    cases carries
    exact ⟨_, .itself (Route.subject?_component key), reports_component read shown, trivial⟩
  | @createImpactType input =>
    obtain ⟨t, v, -, read, shown, rfl⟩ :=
      exists_of_writeAnswer h now (.createImpactType input) trivial (fun _ => rfl) success body
    cases shown
    exact ⟨_, .added_impactType, reports_impactType read, trivial⟩
  | @updateImpactType part id input key =>
    obtain ⟨t, v, carries, read, shown, rfl⟩ :=
      exists_of_writeAnswer h now (.updateImpactType id input) trivial (fun _ => rfl) success body
    cases shown
    cases carries
    exact ⟨_, .itself (Route.subject?_impactType key), reports_impactType read, trivial⟩
  | @createSeverity seed =>
    obtain ⟨severity, -, goes_on⟩ := exists_of_accepting success
    rw [Call.answer, goes_on] at success body ⊢
    obtain ⟨given, v, -, read, shown, rfl⟩ :=
      exists_of_writeAnswer h now (.createSeverity severity) trivial (fun _ => rfl) success body
    cases shown
    exact ⟨_, .added_severity, reports_severity read, trivial⟩
  | @updateSeverity part name seed key =>
    obtain ⟨severity, -, goes_on⟩ := exists_of_accepting success
    rw [Call.answer, goes_on] at success body ⊢
    obtain ⟨given, v, -, read, shown, rfl⟩ :=
      exists_of_writeAnswer h now (.updateSeverity name severity) trivial (fun _ => rfl) success
        body
    cases shown
    exact ⟨_, .renamed, reports_severity read, trivial⟩
  | @createIncident content =>
    obtain ⟨input, accepted, goes_on⟩ := exists_of_accepting success
    rw [Call.answer, goes_on] at success body ⊢
    obtain ⟨i, v, -, read, shown, rfl⟩ :=
      exists_of_writeAnswer h now (.createIncident input) (timesIn_of_incident dated accepted)
        (fun _ => rfl) success body
    exact ⟨_, .added_incident, reports_incident read shown, trivial⟩
  | @updateIncident part id content key =>
    obtain ⟨input, accepted, goes_on⟩ := exists_of_accepting success
    rw [Call.answer, goes_on] at success body ⊢
    obtain ⟨i, v, carries, read, shown, rfl⟩ :=
      exists_of_writeAnswer h now (.updateIncident id input) (timesIn_of_incident dated accepted)
        (fun _ => rfl) success body
    cases carries
    exact ⟨_, .itself (Route.subject?_incident key), reports_incident read shown, trivial⟩
  | @createUpdate part id input key =>
    obtain ⟨u, v, carries, read, shown, rfl⟩ :=
      exists_of_writeAnswer h now (.createUpdate id input) trivial (fun _ => rfl) success body
    cases shown
    cases carries with
    | createUpdate next =>
      have found := ok_of_read (fun _ _ => Entity.update.inj) read
      exact ⟨_, .added_update key, reports_update read, _, rfl, next, rfl, found⟩
  | @updateUpdate part last id order input key number =>
    obtain ⟨u, v, carries, read, shown, rfl⟩ :=
      exists_of_writeAnswer h now (.updateUpdate id order input) trivial (fun _ => rfl) success body
    cases shown
    cases carries with
    | updateUpdate _ place =>
      obtain ⟨rfl, rfl⟩ := place
      exact ⟨_, .itself (Route.subject?_update key number), reports_update read, trivial⟩

end Writes

/-! ## Requests -/

/-- After any history of operations and requests, with clocks and instants of incidents in years of
four digits: what a request is answered with that posts or puts an entity, if it is a success, is
what any get of the entity is answered with from then on, until something else is written. The
entity is the one of the path, or one of the collection of the path, and a severity is the one with
the name in the answer. Such a get changes nothing, and it can be sent if the path of the entity is
no longer than a target may be, which it is unless the entity is a severity with a long name. The
impacts of a new component, the number and the time of a new update are in the answer without a look
at the store, and they are what the store then says. -/
theorem answer_is_read_next {events : List (Moment × Event)}
    (clock : ∀ step ∈ events, step.1.now.FourDigitYear)
    (given : ∀ step ∈ events, step.2.TimesIn Instant.FourDigitYear) {m : Moment}
    (now : m.now.FourDigitYear) {r : Request}
    (dated : RequestTimesIn Instant.FourDigitYear r) (writes : r.method = .post ∨ r.method = .put)
    (entity : Route.ofPath? r.target.path ≠ some .phases) {b : Json}
    (success : (serve m (empty.afterEvents events) r).1.isSuccess = true)
    (body : (serve m (empty.afterEvents events) r).1.body = some b) :
    ∃ route subject, Route.ofPath? r.target.path = some route ∧ WrittenAt route subject ∧
      Reports (serve m (empty.afterEvents events) r).2 subject b ∧
      NotAskedFor m (empty.afterEvents events) (serve m (empty.afterEvents events) r).2 b route ∧
      (byteLength subject.path ≤ Target.longest →
        ∃ get, Request.make? "GET" (String.ofList subject.path) none [] = some get ∧
          AsksFor get subject) ∧
      ((∀ name, subject ≠ .severity name) → byteLength subject.path ≤ Target.longest) ∧
      ∀ (later : Moment) (get : Request), AsksFor get subject →
        serve later (serve m (empty.afterEvents events) r).2 get =
          (⟨200, some b⟩, (serve m (empty.afterEvents events) r).2) := by
  have readable := readable_afterEvents clock given
  generalize empty.afterEvents events = s at readable success body ⊢
  have whole : r.method ≠ .head := by
    rcases writes with post | put
    · exact post.trans_ne (by decide)
    · exact put.trans_ne (by decide)
  cases asked : Call.ofRequest r with
  | error rejection =>
    rw [serve_eq_serveWhole whole, serveWhole, asked] at body
    cases body
  | ok call =>
    obtain ⟨route, found, at_route⟩ := exists_route asked
    have writing : Writing route call := by
      rcases writes with post | put
      · have other : route ≠ .phases := fun same => entity (found.trans (congrArg some same))
        exact writing_of_post post other at_route
      · exact writing_of_put put at_route
    rw [serve_of_call whole asked] at success body ⊢
    obtain ⟨subject, written, reports, not_asked⟩ :=
      writing.answers readable now (dated call asked) success body
    have consistent : (call.answer m s).2.Consistent := by
      rw [call.answer_store]
      cases carried : call.operation? with
      | none => exact readable.consistent
      | some operation => exact readable.consistent.effect (perform_effect m s operation)
    refine ⟨route, subject, found, written, reports, not_asked,
      exists_asksFor (reports.named consistent), Subject.path_fits, ?_⟩
    intro later get asks
    rw [serve_of_call (asks.method.trans_ne (by decide)) asks.ofRequest, reports.answer later]

/-- A request that adds to a collection, with a body as JSON. -/
def postRequest (target : Target) (j : Json) : Request :=
  ⟨.post, target, some "application/json", utf8Encode j.write⟩

/-- The first update of the outage is posted at the end of a leap second. Its answer has the number
and the whole microseconds of the clock, and so has every get of the update. -/
theorem answer_is_read_next_in_outage :
    let events : List (Moment × Event) := outage.map fun step => (step.1, .direct step.2)
    let s := empty.afterEvents events
    let m : Moment := ⟨endOfLeapSecond, fun _ => Uuid.ofNat 5⟩
    let r := postRequest
      (targetAt "/api/incidents/00000000-0000-0000-0000-000000000003/updates" "" (by decide))
      ((Codec.newIncidentUpdate .camel).write ⟨"Fixed", ""⟩)
    let get := getRequest <|
      targetAt "/api/incidents/00000000-0000-0000-0000-000000000003/updates/0" "" (by decide)
    let b := (Codec.incidentUpdate .camel).write
      ⟨Uuid.ofNat 3, 0, "Fixed", "", endOfLeapSecond.truncate⟩
    (∀ step ∈ events, step.1.now.FourDigitYear) ∧
      (∀ step ∈ events, step.2.TimesIn Instant.FourDigitYear) ∧ m.now.FourDigitYear ∧
      RequestTimesIn Instant.FourDigitYear r ∧
      Route.ofPath? r.target.path ≠ some .phases ∧
      (serve m s r).1 = ⟨201, some b⟩ ∧
      serve (momentOf 0) (serve m s r).2 get = (⟨200, some b⟩, (serve m s r).2) := by
  intro events s m r get b
  have clock : ∀ step ∈ events, step.1.now.FourDigitYear := by decide
  have given : ∀ step ∈ events, step.2.TimesIn Instant.FourDigitYear := by
    have direct : ∀ step ∈ outage, step.2.TimesIn Instant.FourDigitYear := by decide
    intro step member
    obtain ⟨before, listed, rfl⟩ := List.mem_map.1 member
    exact direct before listed
  have now : m.now.FourDigitYear := by decide
  have asked : Call.ofRequest r = .ok (.createUpdate (Uuid.ofNat 3) ⟨"Fixed", ""⟩) := by
    decide +kernel
  have dated : RequestTimesIn Instant.FourDigitYear r := by
    intro call other
    cases asked.symm.trans other
    trivial
  have path : Route.ofPath? r.target.path =
      some (.updates "00000000-0000-0000-0000-000000000003") := by
    decide +kernel
  have entity : Route.ofPath? r.target.path ≠ some .phases := by
    rw [path]
    exact nofun
  have created : (s.createUpdate m.now (Uuid.ofNat 3) ⟨"Fixed", ""⟩).answer =
      .ok ⟨Uuid.ofNat 3, 0, "Fixed", "", endOfLeapSecond.truncate⟩ := by
    decide +kernel
  have answered : (serve m s r).1 = ⟨201, some b⟩ := by
    have whole : r.method ≠ .head := by decide
    rw [serve_of_call whole asked, Call.answer, writeAnswer, created]
    rfl
  have asks : AsksFor get (.update (Uuid.ofNat 3) 0) := ⟨rfl, by decide +kernel, rfl⟩
  obtain ⟨route, subject, -, -, reports, -, -, -, reads⟩ :=
    answer_is_read_next clock given now dated (.inl rfl) entity
      (congrArg Response.isSuccess answered) (congrArg Response.body answered)
  obtain rfl := reports.subject_update
  exact ⟨clock, given, now, dated, entity, answered, reads (momentOf 0) get asks⟩

/-! ## Names that no request can have in its path -/

/-- A severity is created in an empty store, whatever its name, if its text fits into a body. -/
theorem serve_created_severity (m : Moment) {v : Severity} {target : Target}
    (collection : Route.ofPath? target.path = some .severities) (visible : Visible v.displayName)
    (scale : v.value.toNat ≤ 100)
    (fits : (utf8Encode ((Codec.severity .camel).write v).write).length ≤ longestBody) :
    (serve m empty (postRequest target ((Codec.severity .camel).write v))).1 =
      ⟨201, some ((Codec.severity .camel).write v)⟩ := by
  have json : (some "application/json").any MediaType.isJson = true := by decide +kernel
  have body := readBody_write (r := postRequest target ((Codec.severity .camel).write v))
    ⟨json, rfl⟩ fits (Codec.lossless_severity .camel).small (Codec.read_severitySeed v)
  have asked : Call.ofRequest (postRequest target ((Codec.severity .camel).write v)) =
      .ok (.createSeverity ⟨v.displayName, v.value.toNat⟩) := by
    rw [ofRequest_eq collection]
    simp only [Call.atRoute, Method.answeredAs, postRequest] at body ⊢
    rw [body]
    rfl
  have content : SeveritySeed.severity ⟨v.displayName, v.value.toNat⟩ = .ok v :=
    Severity.make_ok_iff.2 ⟨visible, scale, rfl⟩
  have created : empty.createSeverity v = ⟨.ok v, empty.withSeverity v⟩ :=
    createSeverity_of_new visible scale rfl
  rw [serve_of_call Method.noConfusion asked, Call.answer, content, accepting, created]
  rfl

/-- A severity takes few more bytes than its name. -/
theorem length_severity_body (name : String) :
    (utf8Encode ((Codec.severity .camel).write ⟨name, 10⟩).write).length ≤
      24 * name.length + 500 := by
  have written : ((Codec.severity .camel).write ⟨name, 10⟩).write =
      '{' :: (Json.writeString "displayName" ++ ':' :: Json.writeString name ++ ',' ::
        (Json.writeString "value" ++ ':' :: (Json.int 10).write ++ ['}'])) := rfl
  have names : (Json.writeString "displayName").length = 13 ∧
      (Json.writeString "value").length = 7 ∧ (Json.int 10).write.length = 2 := by
    decide +kernel
  have text := Json.length_writeString_le name
  refine (length_utf8Encode_le _).trans ?_
  rw [written]
  simp only [List.length_cons, List.length_append, List.length_nil, names]
  omega

/-- A name of a number of letters. -/
def repeatedName (n : Nat) : String :=
  String.ofList (List.replicate n 'a')

theorem length_repeatedName (n : Nat) : (repeatedName n).toList.length = n := by
  rw [repeatedName, String.toList_ofList, List.length_replicate]

theorem visible_repeatedName {n : Nat} (some_letter : n ≠ 0) : Visible (repeatedName n) := by
  rw [visible_iff, blank, repeatedName, String.toList_ofList, List.all_replicate,
    if_neg some_letter]
  decide

/-- A severity whose name has more letters than a target has bytes is created, and the answer shows
it, but no request asks for it. -/
theorem severity_out_of_reach :
    let target := targetAt "/api/severities" "" (by decide)
    let b := (Codec.severity .camel).write ⟨repeatedName 70000, 10⟩
    (serve (momentOf 0) empty (postRequest target b)).1 = ⟨201, some b⟩ ∧
      ∀ get, ¬ AsksFor get (.severity (repeatedName 70000)) := by
  intro target b
  have length := length_repeatedName 70000
  have fits := length_severity_body (repeatedName 70000)
  rw [← String.length_toList, length] at fits
  have visible : Visible (repeatedName 70000) := visible_repeatedName (by decide)
  have collection : Route.ofPath? target.path = some .severities := by decide +kernel
  constructor
  · exact serve_created_severity (momentOf 0) collection visible (by decide)
      (fits.trans (by decide))
  · intro get asks
    have short := asks.length_le
    rw [length] at short
    exact absurd short (by decide)

end Api

end StatusPage
