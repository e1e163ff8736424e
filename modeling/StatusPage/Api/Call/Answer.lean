import StatusPage.Api.Call
import StatusPage.Api.Showing
import StatusPage.Moment

/-!
Answering calls.

A call answers with a response and leaves a store. What was written is shown from the store that the
write left, so a write can have happened even if showing it fails.
-/

namespace StatusPage.Api

open Http Json Store

/-- A response and the store that the call left. -/
abbrev Answered := Response × Store

/-- A value with a status, or the failure to come by it. -/
def responseOf {α : Type} (status : Nat) (c : Codec α) : Except Failure α → Response
  | .ok a => ⟨status, some (c.write a)⟩
  | .error failure => failure.response

/-- The answer to a call that only reads. -/
def readAnswer {α : Type} (s : Store) (c : Codec α) (found : Except Failure α) : Answered :=
  (responseOf 200 c found, s)

/-- The answer to a call that writes, shown from the store that the write left. -/
def writeAnswer {α β : Type} (status : Nat) (c : Codec β) (o : Outcome α)
    (view : Store → α → Except Failure β) : Answered :=
  (responseOf status c (reported o.answer >>= view o.store), o.store)

/-- What was written, as it is. -/
def asWritten {α : Type} : Store → α → Except Failure α :=
  fun _ a => .ok a

/-- The answer to a call that deletes. -/
def deleteAnswer (o : Outcome Unit) : Answered :=
  match o.answer with
  | .ok () => (⟨204, none⟩, o.store)
  | .error fault => (Failure.response (.store fault), o.store)

/-- Goes on with the content of a body, unless something in it breaks a rule. -/
def accepting {α : Type} (s : Store) (content : Except Error α) (next : α → Answered) : Answered :=
  match content with
  | .ok a => next a
  | .error error => (Failure.response (.store (.refused error)), s)

/-- The answer to a call and the store that it leaves. -/
def Call.answer (m : Moment) (s : Store) : Call → Answered
  | .listComponents selector affected t =>
    readAnswer s (.list .componentView) (showComponents s selector affected t)
  | .createComponent body =>
    writeAnswer 201 .componentView (s.createComponent m.id body) fun _ c => .ok (c.view [])
  | .getComponent id t =>
    readAnswer s .componentView (present (.component id) (s.getComponent id) >>= showComponent s t)
  | .updateComponent id body =>
    writeAnswer 200 .componentView (s.updateComponent id body) fun s c => showComponent s none c
  | .deleteComponent id => deleteAnswer (s.deleteComponent id)
  | .listImpactTypes => readAnswer s (.list (.impactType .camel)) (reported s.listImpactTypes)
  | .createImpactType body =>
    writeAnswer 201 (.impactType .camel) (s.createImpactType m.id body) asWritten
  | .getImpactType id =>
    readAnswer s (.impactType .camel) (present (.impactType id) (s.getImpactType id))
  | .updateImpactType id body =>
    writeAnswer 200 (.impactType .camel) (s.updateImpactType id body) asWritten
  | .deleteImpactType id => deleteAnswer (s.deleteImpactType id)
  | .listSeverities => readAnswer s (.list (.severity .camel)) (reported s.listSeverities)
  | .createSeverity body =>
    accepting s body.severity fun severity =>
      writeAnswer 201 (.severity .camel) (s.createSeverity severity) asWritten
  | .getSeverity name =>
    readAnswer s (.severity .camel) (present (.severity name) (s.getSeverity name))
  | .updateSeverity name body =>
    accepting s body.severity fun severity =>
      writeAnswer 200 (.severity .camel) (s.updateSeverity name severity) asWritten
  | .deleteSeverity name => deleteAnswer (s.deleteSeverity name)
  | .listPhases generation => readAnswer s (.list .string) (reported (s.listPhases generation))
  | .createGeneration names => writeAnswer 201 .generation (s.createGeneration names) asWritten
  | .currentGeneration => readAnswer s .generation (reported s.currentGeneration)
  | .listIncidents active t => readAnswer s (.list .incidentView) (showIncidents s active t)
  | .createIncident body =>
    accepting s body.incident fun incident =>
      writeAnswer 201 .incidentView (s.createIncident m.id incident) fun s i =>
        showIncident s none i
  | .getIncident id t =>
    readAnswer s .incidentView (present (.incident id) (s.getIncident id) >>= showIncident s t)
  | .updateIncident id body =>
    accepting s body.incident fun incident =>
      writeAnswer 200 .incidentView (s.updateIncident id incident) fun s i =>
        showIncident s none i
  | .deleteIncident id => deleteAnswer (s.deleteIncident id)
  | .listUpdates id => readAnswer s (.list (.incidentUpdate .camel)) (reported (s.listUpdates id))
  | .createUpdate id body =>
    writeAnswer 201 (.incidentUpdate .camel) (s.createUpdate m.now id body) asWritten
  | .getUpdate id order =>
    readAnswer s (.incidentUpdate .camel) (present (.update id order) (s.getUpdate id order))
  | .updateUpdate id order body =>
    writeAnswer 200 (.incidentUpdate .camel) (s.updateUpdate id order body) asWritten
  | .deleteUpdate id order => deleteAnswer (s.deleteUpdate id order)

end StatusPage.Api
