import StatusPage.Api.Call
import StatusPage.Api.Route
import StatusPage.Http.Form
import StatusPage.Http.Message
import StatusPage.Text.Utf8

/-!
Reading calls from requests.

The path is read first, then the query, then the body, and the first problem turns the request
away. A request that is turned away gets a status and nothing else.
-/

namespace StatusPage.Api

open Http Text Json

/-- Why a request is turned away before it reaches the page. -/
inductive Rejection where
  | unknownPath
  | unknownMethod
  | unreadablePath
  | unreadableQuery
  | unknownMediaType
  | oversizedBody
  /-- The body is not JSON. -/
  | malformedBody
  /-- The body is JSON, but not what is asked for. -/
  | misshapenBody
  deriving DecidableEq, Repr

namespace Rejection

def status : Rejection → Nat
  | .unknownPath => 404
  | .unknownMethod => 405
  | .unreadablePath => 400
  | .unreadableQuery => 400
  | .unknownMediaType => 415
  | .oversizedBody => 413
  | .malformedBody => 400
  | .misshapenBody => 422

def response (r : Rejection) : Response := ⟨r.status, none⟩

end Rejection

/-! ## Numbers in texts -/

/-- The number that a run of at least one digit shows. -/
def digitsNumber? (cs : List Char) : Option Nat :=
  if cs.isEmpty then none else ofDigits 10 cs

/-- The number of 32 bits that a text shows, perhaps with a plus sign. -/
def number32? (s : String) : Option UInt32 :=
  let digits := match s.toList with
    | '+' :: rest => rest
    | cs => cs
  (digitsNumber? digits).bind fun n =>
    if n < 4294967296 then some (UInt32.ofNat n) else none

/-- The integer of 64 bits that a text shows, perhaps with a sign. -/
def integer64? (s : String) : Option Int :=
  let value : Option Int := match s.toList with
    | '+' :: rest => (digitsNumber? rest).map Int.ofNat
    | '-' :: rest => (digitsNumber? rest).map fun n => -(n : Int)
    | cs => (digitsNumber? cs).map Int.ofNat
  value.filter fun i => -9223372036854775808 ≤ i && i ≤ 9223372036854775807

/-- The truth value that a text names. -/
def flag? : String → Option Bool
  | "true" => some true
  | "false" => some false
  | _ => none

/-! ## Parts of a request -/

/-- A part of the path as a value. -/
def segment {α : Type} (read? : String → Option α) (part : String) : Except Rejection α :=
  match (segmentText? part).bind read? with
  | some a => .ok a
  | none => .error .unreadablePath

/-- The identifier in a part of the path. -/
def idSegment : String → Except Rejection Uuid :=
  segment fun s => Uuid.ofList? s.toList

/-- The number of an update in a part of the path. -/
def orderSegment : String → Except Rejection UInt32 :=
  segment number32?

/-- The name in a part of the path. -/
def nameSegment : String → Except Rejection String :=
  segment some

/-- The value of a parameter, if the query has it. -/
def queryValue {α : Type} (r : Request) (name : String) (read? : String → Option α) :
    Except Rejection (Option α) :=
  match single name (parameters r.target.query) with
  | none => .error .unreadableQuery
  | some none => .ok none
  | some (some text) =>
    match read? text with
    | some a => .ok (some a)
    | none => .error .unreadableQuery

/-- The instant that a query asks about. -/
def queryInstant (r : Request) : Except Rejection (Option Instant) :=
  queryValue r "at" Instant.parse?

/-- Whether a query sets a flag. -/
def queryFlag (r : Request) (name : String) : Except Rejection Bool :=
  (queryValue r name flag?).map (·.getD false)

/-- The bytes that a body can have at most. -/
def longestBody : Nat := 2097152

/-- The body of a request as a value. -/
def readBody {α : Type} (r : Request) (c : Codec α) : Except Rejection α :=
  if !r.contentType.any MediaType.isJson then .error .unknownMediaType
  else if longestBody < r.body.length then .error .oversizedBody
  else match c.readDocument (readSymbols (utf8Decode r.body)) with
    | .ok a => .ok a
    | .error .malformed => .error .malformedBody
    | .error .misshapen => .error .misshapenBody

/-! ## Calls -/

/-- The call that a request makes at a route. -/
def Call.atRoute (r : Request) (route : Route) : Except Rejection Call :=
  match route, r.method.answeredAs with
  | .components, .get => do
    let selector ← queryValue r "labels" some
    let affected ← queryFlag r "affected"
    let instant ← queryInstant r
    return .listComponents selector affected instant
  | .components, .post => do
    return .createComponent (← readBody r (.newComponent .camel))
  | .component id, .get => do
    return .getComponent (← idSegment id) (← queryInstant r)
  | .component id, .put => do
    return .updateComponent (← idSegment id) (← readBody r (.newComponent .camel))
  | .component id, .delete => do
    return .deleteComponent (← idSegment id)
  | .impactTypes, .get => .ok .listImpactTypes
  | .impactTypes, .post => do
    return .createImpactType (← readBody r (.newImpactType .camel))
  | .impactType id, .get => do
    return .getImpactType (← idSegment id)
  | .impactType id, .put => do
    return .updateImpactType (← idSegment id) (← readBody r (.newImpactType .camel))
  | .impactType id, .delete => do
    return .deleteImpactType (← idSegment id)
  | .severities, .get => .ok .listSeverities
  | .severities, .post => do
    return .createSeverity (← readBody r (.severitySeed .camel))
  | .severity name, .get => do
    return .getSeverity (← nameSegment name)
  | .severity name, .put => do
    return .updateSeverity (← nameSegment name) (← readBody r (.severitySeed .camel))
  | .severity name, .delete => do
    return .deleteSeverity (← nameSegment name)
  | .phases, .get => do
    return .listPhases (← queryValue r "generation" integer64?)
  | .phases, .post => do
    return .createGeneration (← readBody r (.list .string))
  | .generation, .get => .ok .currentGeneration
  | .incidents, .get => do
    let active ← queryFlag r "active"
    let instant ← queryInstant r
    return .listIncidents active instant
  | .incidents, .post => do
    return .createIncident (← readBody r .incidentBody)
  | .incident id, .get => do
    return .getIncident (← idSegment id) (← queryInstant r)
  | .incident id, .put => do
    return .updateIncident (← idSegment id) (← readBody r .incidentBody)
  | .incident id, .delete => do
    return .deleteIncident (← idSegment id)
  | .updates incident, .get => do
    return .listUpdates (← idSegment incident)
  | .updates incident, .post => do
    return .createUpdate (← idSegment incident) (← readBody r (.newIncidentUpdate .camel))
  | .update incident order, .get => do
    return .getUpdate (← idSegment incident) (← orderSegment order)
  | .update incident order, .put => do
    let id ← idSegment incident
    let order ← orderSegment order
    return .updateUpdate id order (← readBody r (.newIncidentUpdate .camel))
  | .update incident order, .delete => do
    return .deleteUpdate (← idSegment incident) (← orderSegment order)
  | _, _ => .error .unknownMethod

/-- The call that a request makes. -/
def Call.ofRequest (r : Request) : Except Rejection Call :=
  match Route.ofPath? r.target.path with
  | some route => Call.atRoute r route
  | none => .error .unknownPath

end StatusPage.Api
