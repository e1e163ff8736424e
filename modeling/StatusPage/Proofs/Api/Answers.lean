import Mathlib
import StatusPage.Proofs.Api.AffectedListing
import StatusPage.Proofs.Api.Histories
import StatusPage.Proofs.Store.ReadBack

/-!
# Answers to requests

An answer is clean if the server has not failed, if anything but a success has left the store as it
was, and if it tells how the operation of the request ended. Three things make every answer clean in
a readable store. What is looked up is found or refused, and never fails for the store's sake
(`Answerable`). An operation that fails has changed nothing (`FailsCleanly`). And what a write has
saved can be shown from the store that it left, so that no answer fails after its write went
through. `requests_fail_cleanly` says so of every history of a page.
-/

namespace StatusPage

open Store Http
open Json (Codec)

namespace Api

/-- A response tells how a call to the store ended: it is a success if the call went through, and
has the status for the kind of fault if it did not. -/
def Tells {α : Type} (response : Response) : Except Fault α → Prop
  | .ok _ => response.isSuccess = true
  | .error fault => response.status = statusOf fault.kind

/-- What the response to a call has to tell: how its operation ends, if it carries one out. -/
def TellsOf (m : Moment) (s : Store) (response : Response) : Option Operation → Prop
  | some operation => Tells response (operation.perform m s).answer
  | none => True

/-- An answer that is no failure of the server, that leaves the store alone unless it is a success,
and whose response tells what it has to. -/
structure Clean (s : Store) (told : Response → Prop) (answer : Answered) : Prop where
  served : answer.1.status ≠ 500
  kept : answer.1.isSuccess = false → answer.2 = s
  told : told answer.1

/-- A call to the store that fails has a reason to give and has changed nothing. -/
def FailsCleanly {α : Type} (s : Store) (o : Outcome α) : Prop :=
  ∀ fault, o.answer = .error fault → fault.kind ≠ .storeUnavailable ∧ o.store = s

/-- What is looked for is found, or else the caller can be told why it is not. -/
def Answerable {α : Type} (found : Except Failure α) : Prop :=
  ∀ failure, found = .error failure → failure.kind ≠ .storeUnavailable

/-! ## What is looked up -/

section Lookups

variable {α β : Type}

theorem answerable_ok (a : α) : Answerable (.ok a) := by
  intro failure failed
  cases failed

theorem answerable_reported {found : Except Fault α} (available : Available found) :
    Answerable (reported found) := by
  cases found with
  | error fault =>
    intro failure failed
    cases failed
    exact available fault rfl
  | ok a => exact answerable_ok a

theorem answerable_present {found : Except Fault (Option α)} (available : Available found)
    (subject : Subject) : Answerable (present subject found) := by
  intro failure failed
  cases found with
  | error fault =>
    cases failed
    exact available fault rfl
  | ok read =>
    cases read with
    | none =>
      cases failed
      exact nofun
    | some a => cases failed

theorem Answerable.bind {found : Except Failure α} {view : α → Except Failure β}
    (first : Answerable found) (rest : ∀ a, Answerable (view a)) :
    Answerable (found >>= view) := by
  cases found with
  | error failure =>
    intro other failed
    cases failed
    exact first failure rfl
  | ok a => exact rest a

theorem Answerable.map {found : Except Failure α} (first : Answerable found) (view : α → β) :
    Answerable (found.map view) := by
  cases found with
  | error failure =>
    intro other failed
    cases failed
    exact first failure rfl
  | ok a => exact answerable_ok (view a)

theorem Answerable.mapM {view : α → Except Failure β} (each : ∀ a, Answerable (view a))
    (l : List α) : Answerable (l.mapM view) := by
  induction l with
  | nil => exact answerable_ok []
  | cons a rest ih =>
    rw [List.mapM_cons]
    exact (each a).bind fun b => ih.bind fun bs => answerable_ok (b :: bs)

end Lookups

end Api

open Api

namespace Store.Readable

variable {s : Store} (h : s.Readable)

include h

theorem answerable_showComponent (t : Option Instant) (c : Component) :
    Answerable (showComponent s t c) :=
  (answerable_reported (h.consistent.available_affectingIncidents c.id t)).map c.view

theorem answerable_showIncident (t : Option Instant) (i : Incident) :
    Answerable (showIncident s t i) := by
  refine (answerable_reported (h.consistent.available_affectedComponents i.id t)).bind
    fun affects => ?_
  refine (answerable_reported (h.consistent.available_listUpdates h.updates i.id)).bind
    fun updates => ?_
  exact answerable_ok (i.view affects updates)

theorem answerable_showComponents (selector : Option String) (affected : Bool)
    (t : Option Instant) : Answerable (showComponents s selector affected t) := by
  have listed (labels : Labels) : Answerable (reported (s.listComponents ⟨labels, affected, t⟩) >>=
      fun components => components.mapM (showComponent s t)) := by
    have components := h.consistent.available_listComponents ⟨labels, affected, t⟩
    exact (answerable_reported components).bind (Answerable.mapM (h.answerable_showComponent t))
  cases selector with
  | some text =>
    have labels := answerable_reported (available_refusing (Labels.parseSelector text))
    exact labels.bind listed
  | none => exact listed ∅

theorem answerable_showIncidents (active : Bool) (t : Option Instant) :
    Answerable (showIncidents s active t) :=
  (answerable_reported (h.incidents.available_listIncidents ⟨active, t⟩)).bind
    fun listed => Answerable.mapM (h.answerable_showIncident t) listed

/-! ## What was written -/

/-- A component that can be read can be shown. -/
theorem exists_showComponent {c : Component} (t : Option Instant)
    (read : s.read (.component c.id) = .ok (some (.component c))) :
    ∃ view, showComponent s t c = .ok view := by
  rw [Store.read, map_ok_iff] at read
  obtain ⟨found, getComponent, same⟩ := read
  obtain ⟨other, rfl, -⟩ := Option.map_eq_some_iff.1 same
  have known := h.consistent.hasComponent_of_getComponent getComponent
  obtain ⟨affecting, answer, -⟩ := h.consistent.mem_affectingIncidents known t
  exact ⟨_, showComponent_of_ok answer⟩

/-- An incident that can be read can be shown. -/
theorem exists_showIncident {i : Incident} (t : Option Instant)
    (read : s.read (.incident i.id) = .ok (some (.incident i))) :
    ∃ view, showIncident s t i = .ok view := by
  have known : s.hasIncident i.id = true := by
    rw [← findIncident_isSome]
    cases found : s.findIncident i.id with
    | none =>
      rw [Store.read, getIncident, found] at read
      cases read
    | some row => rfl
  obtain ⟨affects, affected, -⟩ := h.consistent.mem_affectedComponents known t
  obtain ⟨updates, listed, -⟩ := exists_listUpdates h.consistent h.updates known
  refine ⟨i.view affects updates, ?_⟩
  rw [showIncident, affected, listed]
  rfl

end Store.Readable

namespace Api

/-! ## Answers -/

section Answers

variable {α β : Type} {s : Store} {told : Response → Prop}

theorem clean_of_success {response : Response} {next : Store} (success : response.isSuccess = true)
    (tells : told response) : Clean s told (response, next) where
  served := by
    intro failed
    rw [Response.isSuccess, failed] at success
    cases success
  kept := by
    intro unsuccessful
    rw [success] at unsuccessful
    cases unsuccessful
  told := tells

/-- Only a store that is of no use is a failure of the server. -/
theorem clean_of_failure {failure : Failure} (kind : failure.kind ≠ .storeUnavailable)
    (tells : told failure.response) : Clean s told (failure.response, s) where
  served := by
    change statusOf failure.kind ≠ 500
    cases known : failure.kind with
    | storeUnavailable => exact absurd known kind
    | _ => exact nofun
  kept := fun _ => rfl
  told := tells

theorem clean_rejection (rejection : Rejection) :
    Clean s (fun _ => True) (rejection.response, s) where
  served := by cases rejection <;> exact nofun
  kept := fun _ => rfl
  told := trivial

theorem clean_readAnswer (c : Codec α) {found : Except Failure α}
    (answerable : Answerable found) : Clean s (fun _ => True) (readAnswer s c found) := by
  cases found with
  | error failure => exact clean_of_failure (answerable failure rfl) trivial
  | ok a => exact clean_of_success rfl trivial

/-- A deletion is answered without a body, or with its fault. -/
theorem clean_deleteAnswer {o : Outcome Unit} (fails : FailsCleanly s o) :
    Clean s (Tells · o.answer) (deleteAnswer o) := by
  unfold deleteAnswer
  cases answer : o.answer with
  | ok deleted => exact clean_of_success rfl rfl
  | error fault =>
    obtain ⟨kind, kept⟩ := fails fault answer
    rw [kept]
    exact clean_of_failure kind rfl

/-- A write is answered with what it wrote, which has to be shown, or with its fault. -/
theorem clean_writeAnswer {o : Outcome α} (fails : FailsCleanly s o) (c : Codec β) (status : Nat)
    (success : (⟨status, none⟩ : Response).isSuccess = true)
    {view : Store → α → Except Failure β}
    (shown : ∀ a, o.answer = .ok a → ∃ b, view o.store a = .ok b) :
    Clean s (Tells · o.answer) (writeAnswer status c o view) := by
  unfold writeAnswer
  cases answer : o.answer with
  | ok a =>
    obtain ⟨b, written⟩ := shown a answer
    change Clean s _ (responseOf status c (view o.store a), o.store)
    rw [written]
    exact clean_of_success success success
  | error fault =>
    obtain ⟨kind, kept⟩ := fails fault answer
    rw [kept]
    exact clean_of_failure kind rfl

/-- A refused body changes nothing, and the operation on any other is looked at by itself. -/
theorem clean_accepting {m : Moment} {content : Except Error α} {next : α → Answered}
    {operation : α → Operation}
    (clean : ∀ a, content = .ok a →
      Clean s (Tells · ((operation a).perform m s).answer) (next a)) :
    Clean s (TellsOf m s · (content.toOption.map operation)) (accepting s content next) := by
  cases content with
  | error error => exact clean_of_failure (kind_ne_storeUnavailable error) trivial
  | ok a => exact clean a rfl

end Answers

end Api

/-! ## Answers of a readable store -/

namespace Store.Readable

theorem fourDigitYear_epoch : Instant.epoch.FourDigitYear := by decide

variable {s : Store} (h : s.Readable) (m : Moment)

include h

theorem failsCleanly (operation : Operation) (dated : operation.TimesIn Instant.FourDigitYear) :
    FailsCleanly s (operation.perform m s) := by
  intro fault failed
  have kept := (perform_effect m s operation).store_eq_of_error h.incidents h.updates dated failed
  exact ⟨h.available_perform m operation dated fault failed, kept⟩

/-- What the store answers is passed on as it is. -/
theorem clean_reported (operation : Operation) (dated : operation.TimesIn Instant.FourDigitYear)
    (c : Codec operation.Result) :
    Clean s (fun _ => True) (readAnswer s c (reported (operation.perform m s).answer)) :=
  clean_readAnswer c (answerable_reported (h.available_perform m operation dated))

/-- A write that answers with an entity leaves a store in which the entity is read, and it carries
what it was given. -/
theorem read_of_saved (operation : Operation) (dated : operation.TimesIn Instant.FourDigitYear)
    {result : operation.Result} (answer : (operation.perform m s).answer = .ok result)
    {entity : Entity} (saved : operation.saved result = some entity)
    (now : m.now.FourDigitYear) :
    Carries m s operation entity ∧ (operation.perform m s).store.Readable ∧
      (operation.perform m s).store.read entity.subject = .ok (some entity.stored) := by
  have done := perform_effect m s operation
  obtain ⟨carries, saves, -⟩ :=
    done.saves h.consistent h.incidents h.updates now dated answer saved
  have read := saves.saved
  rw [entity.subject_stored] at read
  exact ⟨carries, h.effect now dated done, read⟩

/-! What the three writes below leave does not depend on the clock. So it can be read back even if
the clock of the request is past all years of four digits: the same is left at the epoch. -/

theorem exists_showComponent_updated {id : Uuid} {body : NewComponent} {c : Component}
    (answer : (s.updateComponent id body).answer = .ok c) :
    ∃ view, showComponent (s.updateComponent id body).store none c = .ok view := by
  obtain ⟨-, next, read⟩ := h.read_of_saved ⟨Instant.epoch, fun _ => id⟩ (.updateComponent id body)
    trivial answer rfl fourDigitYear_epoch
  exact next.exists_showComponent none read

theorem exists_showIncident_created {input : NewIncident} {i : Incident}
    (dated : input.TimesIn Instant.FourDigitYear)
    (answer : (s.createIncident m.id input).answer = .ok i) :
    ∃ view, showIncident (s.createIncident m.id input).store none i = .ok view := by
  obtain ⟨-, next, read⟩ := h.read_of_saved ⟨Instant.epoch, m.draw⟩ (.createIncident input) dated
    answer rfl fourDigitYear_epoch
  exact next.exists_showIncident none read

theorem exists_showIncident_updated {id : Uuid} {input : NewIncident} {i : Incident}
    (dated : input.TimesIn Instant.FourDigitYear)
    (answer : (s.updateIncident id input).answer = .ok i) :
    ∃ view, showIncident (s.updateIncident id input).store none i = .ok view := by
  obtain ⟨-, next, read⟩ := h.read_of_saved ⟨Instant.epoch, fun _ => id⟩ (.updateIncident id input)
    dated answer rfl fourDigitYear_epoch
  exact next.exists_showIncident none read

/-- Every call is answered cleanly. -/
theorem clean_answer {call : Call} (dated : call.TimesIn Instant.FourDigitYear) :
    Clean s (TellsOf m s · call.operation?) (call.answer m s) := by
  cases call with
  | listComponents selector affected t =>
    exact clean_readAnswer _ (h.answerable_showComponents selector affected t)
  | createComponent body =>
    have fails := h.failsCleanly m (.createComponent body) trivial
    rw [Call.answer]
    refine clean_writeAnswer fails _ 201 rfl fun c _ => ?_
    exact ⟨c.view [], rfl⟩
  | getComponent id t =>
    have found := answerable_present (h.available_perform m (.getComponent id) trivial)
      (.component id)
    exact clean_readAnswer _ (found.bind (h.answerable_showComponent t))
  | updateComponent id body =>
    have fails := h.failsCleanly m (.updateComponent id body) trivial
    rw [Call.answer]
    refine clean_writeAnswer fails _ 200 rfl fun c answer => ?_
    exact h.exists_showComponent_updated answer
  | deleteComponent id =>
    exact clean_deleteAnswer (h.failsCleanly m (.deleteComponent id) trivial)
  | listImpactTypes => exact h.clean_reported m .listImpactTypes trivial _
  | createImpactType body =>
    have fails := h.failsCleanly m (.createImpactType body) trivial
    exact clean_writeAnswer fails _ 201 rfl fun t _ => ⟨t, rfl⟩
  | getImpactType id =>
    exact clean_readAnswer _
      (answerable_present (h.available_perform m (.getImpactType id) trivial) (.impactType id))
  | updateImpactType id body =>
    have fails := h.failsCleanly m (.updateImpactType id body) trivial
    exact clean_writeAnswer fails _ 200 rfl fun t _ => ⟨t, rfl⟩
  | deleteImpactType id =>
    exact clean_deleteAnswer (h.failsCleanly m (.deleteImpactType id) trivial)
  | listSeverities => exact h.clean_reported m .listSeverities trivial _
  | createSeverity body =>
    refine clean_accepting fun severity _ => ?_
    have fails := h.failsCleanly m (.createSeverity severity) trivial
    exact clean_writeAnswer fails _ 201 rfl fun v _ => ⟨v, rfl⟩
  | getSeverity name =>
    exact clean_readAnswer _
      (answerable_present (h.available_perform m (.getSeverity name) trivial) (.severity name))
  | updateSeverity name body =>
    refine clean_accepting fun severity _ => ?_
    have fails := h.failsCleanly m (.updateSeverity name severity) trivial
    exact clean_writeAnswer fails _ 200 rfl fun v _ => ⟨v, rfl⟩
  | deleteSeverity name =>
    exact clean_deleteAnswer (h.failsCleanly m (.deleteSeverity name) trivial)
  | listPhases generation => exact h.clean_reported m (.listPhases generation) trivial _
  | createGeneration names =>
    have fails := h.failsCleanly m (.createGeneration names) trivial
    exact clean_writeAnswer fails _ 201 rfl fun g _ => ⟨g, rfl⟩
  | currentGeneration => exact h.clean_reported m .currentGeneration trivial _
  | listIncidents active t =>
    exact clean_readAnswer _ (h.answerable_showIncidents active t)
  | createIncident body =>
    refine clean_accepting fun input read => ?_
    have times := timesIn_of_incident dated read
    have fails := h.failsCleanly m (.createIncident input) times
    refine clean_writeAnswer fails _ 201 rfl fun i answer => ?_
    exact h.exists_showIncident_created m times answer
  | getIncident id t =>
    have found := answerable_present (h.available_perform m (.getIncident id) trivial)
      (.incident id)
    exact clean_readAnswer _ (found.bind (h.answerable_showIncident t))
  | updateIncident id body =>
    refine clean_accepting fun input read => ?_
    have times := timesIn_of_incident dated read
    have fails := h.failsCleanly m (.updateIncident id input) times
    refine clean_writeAnswer fails _ 200 rfl fun i answer => ?_
    exact h.exists_showIncident_updated times answer
  | deleteIncident id =>
    exact clean_deleteAnswer (h.failsCleanly m (.deleteIncident id) trivial)
  | listUpdates id => exact h.clean_reported m (.listUpdates id) trivial _
  | createUpdate id body =>
    have fails := h.failsCleanly m (.createUpdate id body) trivial
    exact clean_writeAnswer fails _ 201 rfl fun u _ => ⟨u, rfl⟩
  | getUpdate id order =>
    exact clean_readAnswer _
      (answerable_present (h.available_perform m (.getUpdate id order) trivial) (.update id order))
  | updateUpdate id order body =>
    have fails := h.failsCleanly m (.updateUpdate id order body) trivial
    exact clean_writeAnswer fails _ 200 rfl fun u _ => ⟨u, rfl⟩
  | deleteUpdate id order =>
    exact clean_deleteAnswer (h.failsCleanly m (.deleteUpdate id order) trivial)

end Store.Readable

namespace Api

/-! ## Requests -/

/-- The headers of a response have the status of the whole. -/
theorem status_serve (m : Moment) (s : Store) (r : Request) :
    (serve m s r).1.status = (serveWhole m s r).1.status := by
  unfold serve
  dsimp only
  split <;> rfl

/-- What a response tells is in its status. -/
theorem Tells.congr {α : Type} {a b : Response} (same : a.status = b.status)
    {answer : Except Fault α} (tells : Tells b answer) : Tells a answer := by
  cases answer with
  | ok result =>
    change a.isSuccess = true
    rw [Response.isSuccess, same]
    exact tells
  | error fault => exact same.trans tells

/-- After any history of operations and requests, with clocks and instants of incidents in years of
four digits: a request whose body has such instants is never answered with a failure of the server,
and unless it is answered with a success it has changed nothing. If it carries out an operation, it
is answered with a success exactly if the operation went through, and with the status for the kind
of fault if it did not. So nothing that a write does for its answer, after it went through, can
fail. -/
theorem requests_fail_cleanly {events : List (Moment × Event)}
    (clock : ∀ step ∈ events, step.1.now.FourDigitYear)
    (given : ∀ step ∈ events, step.2.TimesIn Instant.FourDigitYear) (m : Moment) {r : Request}
    (dated : RequestTimesIn Instant.FourDigitYear r) :
    (serve m (empty.afterEvents events) r).1.status ≠ 500 ∧
      ((serve m (empty.afterEvents events) r).1.isSuccess = false →
        (serve m (empty.afterEvents events) r).2 = empty.afterEvents events) ∧
      ∀ call operation, Call.ofRequest r = .ok call → call.operation? = some operation →
        Tells (serve m (empty.afterEvents events) r).1
          (operation.perform m (empty.afterEvents events)).answer := by
  have readable := readable_afterEvents clock given
  generalize empty.afterEvents events = s at readable
  have status := status_serve m s r
  cases asked : Call.ofRequest r with
  | error rejection =>
    have whole : serveWhole m s r = (rejection.response, s) := by rw [serveWhole, asked]
    rw [whole] at status
    obtain ⟨served, -, -⟩ := clean_rejection (s := s) rejection
    refine ⟨status ▸ served, fun _ => serve_of_rejected asked, ?_⟩
    intro call operation same
    cases same
  | ok call =>
    have whole : serveWhole m s r = call.answer m s := by rw [serveWhole, asked]
    rw [whole] at status
    have store : (serve m s r).2 = (call.answer m s).2 := by
      rw [serve, whole]
    obtain ⟨served, kept, told⟩ := readable.clean_answer m (dated call asked)
    refine ⟨status ▸ served, ?_, ?_⟩
    · intro unsuccessful
      rw [Response.isSuccess, status] at unsuccessful
      exact store.trans (kept unsuccessful)
    · intro other operation same carried
      cases same
      rw [carried] at told
      exact Tells.congr status told

/-- A request to delete what stands at a target. -/
def deleteRequest (target : Target) : Request :=
  ⟨.delete, target, none, []⟩

/-- The target of the impact type that the outage has no use for. -/
def idleImpactType : Target :=
  targetAt "/api/impact-types/00000000-0000-0000-0000-000000000004" "" (by decide)

/-- The target of the component that is out. -/
def outComponent : Target :=
  targetAt "/api/components/00000000-0000-0000-0000-000000000001" "" (by decide)

/-- The outage, and a request that deletes the impact type that it has no use for. -/
def outageEvents : List (Moment × Event) :=
  outage.map (fun step => (step.1, .direct step.2)) ++
    [(momentOf 0, .request (deleteRequest idleImpactType))]

/-- During the outage the impact type that it has no use for can be deleted by a request. Another
one, to delete the component that is out, is answered with a conflict and changes nothing. -/
theorem requests_fail_cleanly_in_outage :
    let s := empty.afterEvents outageEvents
    let r := deleteRequest outComponent
    (∀ step ∈ outageEvents, step.1.now.FourDigitYear) ∧
      (∀ step ∈ outageEvents, step.2.TimesIn Instant.FourDigitYear) ∧
      RequestTimesIn Instant.FourDigitYear r ∧ s.hasImpactType (Uuid.ofNat 4) = false ∧
      (serve (momentOf 0) s r).1.status = 409 ∧ (serve (momentOf 0) s r).2 = s := by
  intro s r
  have clock : ∀ step ∈ outageEvents, step.1.now.FourDigitYear := by decide
  have deletes : Call.ofRequest (deleteRequest idleImpactType) =
      .ok (.deleteImpactType (Uuid.ofNat 4)) := by
    decide +kernel
  have given : ∀ step ∈ outageEvents, step.2.TimesIn Instant.FourDigitYear := by
    have direct : ∀ step ∈ outage, step.2.TimesIn Instant.FourDigitYear := by decide
    intro step member
    rcases List.mem_append.1 member with member | member
    · obtain ⟨before, before_member, rfl⟩ := List.mem_map.1 member
      exact direct before before_member
    · obtain rfl := List.mem_singleton.1 member
      intro call asked
      cases deletes.symm.trans asked
      trivial
  have dated : RequestTimesIn Instant.FourDigitYear r := by
    have asked : Call.ofRequest r = .ok (.deleteComponent (Uuid.ofNat 1)) := by decide +kernel
    intro call other
    cases asked.symm.trans other
    trivial
  have conflict : (serve (momentOf 0) s r).1.status = 409 := by decide +kernel
  have deleted : s.hasImpactType (Uuid.ofNat 4) = false := by decide +kernel
  obtain ⟨-, kept, -⟩ := requests_fail_cleanly clock given (momentOf 0) dated
  refine ⟨clock, given, dated, deleted, conflict, kept ?_⟩
  rw [Response.isSuccess, conflict]
  rfl

end Api

end StatusPage
