import Mathlib
import StatusPage.Api.Service
import StatusPage.Proofs.Store.WriteFaults

/-!
# Requests as operations

A request carries out at most one operation on the store, whatever else it reads for its answer:
`Call.answer_store` says which. So a history of a page, in which operations on the store and
requests alternate in any way, leaves a store that a run of operations leaves
(`afterEvents_eq_run`), and what holds in every run holds in every history.
-/

namespace StatusPage

open Store Http

namespace Api

/-! ## The operation of a call -/

/-- The operation that a call carries out on the store. A call that reads carries out none, and
neither does one whose body is refused. -/
def Call.operation? : Call → Option Operation
  | .createComponent body => some (.createComponent body)
  | .updateComponent id body => some (.updateComponent id body)
  | .deleteComponent id => some (.deleteComponent id)
  | .createImpactType body => some (.createImpactType body)
  | .updateImpactType id body => some (.updateImpactType id body)
  | .deleteImpactType id => some (.deleteImpactType id)
  | .createSeverity body => body.severity.toOption.map .createSeverity
  | .updateSeverity name body => body.severity.toOption.map (.updateSeverity name)
  | .deleteSeverity name => some (.deleteSeverity name)
  | .createGeneration names => some (.createGeneration names)
  | .createIncident body => body.incident.toOption.map .createIncident
  | .updateIncident id body => body.incident.toOption.map (.updateIncident id)
  | .deleteIncident id => some (.deleteIncident id)
  | .createUpdate id body => some (.createUpdate id body)
  | .updateUpdate id order body => some (.updateUpdate id order body)
  | .deleteUpdate id order => some (.deleteUpdate id order)
  | _ => none

/-- The store after an operation at a moment, if there is one. -/
def stored (m : Moment) (s : Store) : Option Operation → Store
  | some operation => (operation.perform m s).store
  | none => s

theorem deleteAnswer_store (o : Outcome Unit) : (deleteAnswer o).2 = o.store := by
  unfold deleteAnswer
  split <;> rfl

theorem toOption_eq_some_iff {ε α : Type} {x : Except ε α} {a : α} :
    x.toOption = some a ↔ x = .ok a := by
  cases x <;> simp [Except.toOption]

/-- A refused body leaves the store alone, and any other goes on to its operation. -/
theorem accepting_store {α : Type} {m : Moment} {s : Store} {content : Except Error α}
    {next : α → Answered} {operation : α → Operation}
    (leaves : ∀ a, (next a).2 = ((operation a).perform m s).store) :
    (accepting s content next).2 = stored m s (content.toOption.map operation) := by
  cases content with
  | error error => rfl
  | ok a => exact leaves a

/-- What a call leaves is what its operation leaves. -/
theorem Call.answer_store (m : Moment) (s : Store) (call : Call) :
    (call.answer m s).2 = stored m s call.operation? := by
  cases call with
  | deleteComponent id => exact deleteAnswer_store (s.deleteComponent id)
  | deleteImpactType id => exact deleteAnswer_store (s.deleteImpactType id)
  | deleteSeverity name => exact deleteAnswer_store (s.deleteSeverity name)
  | deleteIncident id => exact deleteAnswer_store (s.deleteIncident id)
  | deleteUpdate id order => exact deleteAnswer_store (s.deleteUpdate id order)
  | createSeverity body => exact accepting_store fun _ => rfl
  | updateSeverity name body => exact accepting_store fun _ => rfl
  | createIncident body => exact accepting_store fun _ => rfl
  | updateIncident id body => exact accepting_store fun _ => rfl
  | _ => rfl

theorem serve_store (m : Moment) (s : Store) (r : Request) :
    (serve m s r).2 = stored m s ((Call.ofRequest r).toOption.bind Call.operation?) := by
  rw [serve, serveWhole]
  cases Call.ofRequest r with
  | error rejection => rfl
  | ok call => exact call.answer_store m s

/-! ## Instants of a request -/

/-- The instants in the body of a call have a property. -/
def Call.TimesIn (p : Instant → Prop) : Call → Prop
  | .createIncident body | .updateIncident _ body =>
    p body.beganAt ∧ ∀ ended ∈ body.endedAt, p ended
  | _ => True

/-- The instants in the body of a request have a property. What it asks about does not matter. -/
def RequestTimesIn (p : Instant → Prop) (r : Request) : Prop :=
  ∀ call, Call.ofRequest r = .ok call → call.TimesIn p

/-- The incident of a body has the instants of the body. -/
theorem timesIn_of_incident {p : Instant → Prop} {body : IncidentBody} {input : NewIncident}
    (dated : p body.beganAt ∧ ∀ ended ∈ body.endedAt, p ended)
    (read : body.incident = .ok input) : input.TimesIn p := by
  obtain ⟨impacts, -, rfl⟩ := map_ok_iff.1 read
  exact dated

theorem Call.TimesIn.operation {p : Instant → Prop} {call : Call} (dated : call.TimesIn p)
    {operation : Operation} (carried : call.operation? = some operation) :
    operation.TimesIn p := by
  cases call with
  | createIncident body =>
    obtain ⟨input, read, rfl⟩ := Option.map_eq_some_iff.1 carried
    exact timesIn_of_incident dated (toOption_eq_some_iff.1 read)
  | updateIncident id body =>
    obtain ⟨input, read, rfl⟩ := Option.map_eq_some_iff.1 carried
    exact timesIn_of_incident dated (toOption_eq_some_iff.1 read)
  | createSeverity body =>
    obtain ⟨severity, -, rfl⟩ := Option.map_eq_some_iff.1 carried
    trivial
  | updateSeverity name body =>
    obtain ⟨severity, -, rfl⟩ := Option.map_eq_some_iff.1 carried
    trivial
  | _ =>
    cases carried <;> trivial

/-! ## Histories -/

/-- What can happen to the store of a page. -/
inductive Event where
  /-- An operation is carried out on the store itself. -/
  | direct (operation : Operation)
  | request (r : Request)

namespace Event

/-- The store that an event leaves. -/
def leaves (m : Moment) (s : Store) : Event → Store
  | .direct operation => (operation.perform m s).store
  | .request r => (serve m s r).2

/-- The operation that an event comes to. -/
def operation? : Event → Option Operation
  | .direct operation => some operation
  | .request r => (Call.ofRequest r).toOption.bind Call.operation?

/-- The instants that an event gives of an incident have a property. -/
def TimesIn (p : Instant → Prop) : Event → Prop
  | .direct operation => operation.TimesIn p
  | .request r => RequestTimesIn p r

theorem leaves_eq (m : Moment) (s : Store) (event : Event) :
    event.leaves m s = stored m s event.operation? := by
  cases event with
  | direct operation => rfl
  | request r => exact serve_store m s r

theorem TimesIn.operation {p : Instant → Prop} {event : Event} (dated : event.TimesIn p)
    {operation : Operation} (carried : event.operation? = some operation) :
    operation.TimesIn p := by
  cases event with
  | direct other =>
    cases carried
    exact dated
  | request r =>
    obtain ⟨call, asked, carried⟩ := Option.bind_eq_some_iff.1 carried
    exact (dated call (toOption_eq_some_iff.1 asked)).operation carried

end Event

/-- The operations that a history comes to, each at its moment. -/
def operationsOf (events : List (Moment × Event)) : List (Moment × Operation) :=
  events.filterMap fun step => step.2.operation?.map (step.1, ·)

end Api

open Api

namespace Store

/-- The store after events one after the other, each at its moment. -/
def afterEvents (s : Store) : List (Moment × Event) → Store
  | [] => s
  | (m, event) :: rest => (event.leaves m s).afterEvents rest

/-- A history leaves what the operations that it comes to leave. -/
theorem afterEvents_eq_run (s : Store) (events : List (Moment × Event)) :
    s.afterEvents events = s.run (operationsOf events) := by
  induction events generalizing s with
  | nil => rfl
  | cons step rest ih =>
    obtain ⟨m, event⟩ := step
    rw [afterEvents, event.leaves_eq, ih, operationsOf, operationsOf, List.filterMap_cons]
    cases event.operation? <;> rfl

/-- Clocks and instants in years of four digits leave a store that can be read back. -/
theorem readable_afterEvents {events : List (Moment × Event)}
    (clock : ∀ step ∈ events, step.1.now.FourDigitYear)
    (given : ∀ step ∈ events, step.2.TimesIn Instant.FourDigitYear) :
    (empty.afterEvents events).Readable := by
  have carried : ∀ step ∈ operationsOf events,
      step.1.now.FourDigitYear ∧ step.2.TimesIn Instant.FourDigitYear := by
    intro step member
    obtain ⟨⟨m, event⟩, event_member, carries⟩ := List.mem_filterMap.1 member
    obtain ⟨operation, known, rfl⟩ := Option.map_eq_some_iff.1 carries
    have dated : event.TimesIn Instant.FourDigitYear := given (m, event) event_member
    exact ⟨clock (m, event) event_member, dated.operation known⟩
  rw [afterEvents_eq_run]
  exact readable_run (fun step member => (carried step member).1)
    fun step member => (carried step member).2

end Store

end StatusPage
