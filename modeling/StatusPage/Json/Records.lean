import StatusPage.Config
import StatusPage.Json.Codec
import StatusPage.Update

/-!
The records of the page as JSON.

Each record has one codec, which takes the style in which names of several words are spelled:
`snake` inside the page and `camel` on the wire. What a caller gives has defaults where the caller
may leave it out, and the store's own records have none.
-/

namespace StatusPage.Json

/-- How names of several words are spelled. -/
inductive Style where
  | snake
  | camel
  deriving DecidableEq, Repr

/-- The spelling that a style asks for. -/
def Style.pick (style : Style) (snake camel : String) : String :=
  match style with
  | .snake => snake
  | .camel => camel

namespace Style

def displayName (style : Style) : String := style.pick "display_name" "displayName"
def beganAt (style : Style) : String := style.pick "began_at" "beganAt"
def endedAt (style : Style) : String := style.pick "ended_at" "endedAt"
def createdAt (style : Style) : String := style.pick "created_at" "createdAt"
def incidentId (style : Style) : String := style.pick "incident_id" "incidentId"

end Style

namespace Codec

open Fields RecordField

/-! ## Components -/

def component (style : Style) : Codec Component :=
  (cons (required "id" uuid) <| cons (required style.displayName string) <|
    cons (required "labels" labels) nil).codec
    (fun c => (c.id, c.displayName, c.labels, ()))
    (fun (id, displayName, labels, ()) => ⟨id, displayName, labels⟩)

def newComponent (style : Style) : Codec NewComponent :=
  (cons (required style.displayName string) <| cons (defaulted "labels" labels ∅) nil).codec
    (fun c => (c.displayName, c.labels, ()))
    (fun (displayName, labels, ()) => ⟨displayName, labels⟩)

/-! ## Impact types and severities -/

def impactType (style : Style) : Codec ImpactType :=
  (cons (required "id" uuid) <| cons (required style.displayName string) <|
    cons (required "description" string) nil).codec
    (fun t => (t.id, t.displayName, t.description, ()))
    (fun (id, displayName, description, ()) => ⟨id, displayName, description⟩)

def newImpactType (style : Style) : Codec NewImpactType :=
  (cons (required style.displayName string) <| cons (defaulted "description" string "") nil).codec
    (fun t => (t.displayName, t.description, ()))
    (fun (displayName, description, ()) => ⟨displayName, description⟩)

def severity (style : Style) : Codec Severity :=
  (cons (required style.displayName string) <| cons (required "value" uint8) nil).codec
    (fun s => (s.displayName, s.value, ()))
    (fun (displayName, value, ()) => ⟨displayName, value⟩)

def severitySeed (style : Style) : Codec SeveritySeed :=
  (cons (required style.displayName string) <| cons (required "value" int64) nil).codec
    (fun s => (s.displayName, s.value, ()))
    (fun (displayName, value, ()) => ⟨displayName, value⟩)

/-! ## Phases -/

def phaseRef : Codec PhaseRef :=
  (cons (required "generation" uint32) <| cons (required "order" uint32) nil).codec
    (fun p => (p.generation, p.order, ()))
    (fun (generation, order, ()) => ⟨generation, order⟩)

def phase : Codec Phase :=
  (cons (required "name" string) <| cons (required "generation" uint32) <|
    cons (required "order" uint32) nil).codec
    (fun p => (p.name, p.generation, p.order, ()))
    (fun (name, generation, order, ()) => ⟨name, generation, order⟩)

/-- The number of a generation in a record of its own. -/
def generation : Codec UInt32 :=
  (cons (required "generation" uint32) nil).codec (fun g => (g, ())) (fun (g, ()) => g)

/-! ## Incidents -/

def impact : Codec Impact :=
  (cons (required "component_id" uuid) <| cons (required "impact_type_id" uuid) <|
    cons (required "severity" uint8) nil).codec
    (fun m => (m.component, m.impactType, m.severity, ()))
    (fun (component, impactType, severity, ()) => ⟨component, impactType, severity⟩)

def affectingIncident : Codec AffectingIncident :=
  (cons (required "incident_id" uuid) <| cons (required "impact_type_id" uuid) <|
    cons (required "severity" uint8) nil).codec
    (fun m => (m.incident, m.impactType, m.severity, ()))
    (fun (incident, impactType, severity, ()) => ⟨incident, impactType, severity⟩)

def incident : Codec Incident :=
  (cons (required "id" uuid) <| cons (required "display_name" string) <|
    cons (required "description" string) <| cons (required "began_at" instant) <|
    cons (optional "ended_at" instant) <| cons (required "phase" phaseRef) nil).codec
    (fun i => (i.id, i.displayName, i.description, i.beganAt, i.endedAt, i.phase, ()))
    (fun (id, displayName, description, beganAt, endedAt, phase, ()) =>
      ⟨id, displayName, description, beganAt, endedAt, phase⟩)

def newIncident : Codec NewIncident :=
  (cons (required "display_name" string) <| cons (required "description" string) <|
    cons (required "began_at" instant) <| cons (optional "ended_at" instant) <|
    cons (optional "phase" phaseRef) <| cons (required "impacts" (list impact)) nil).codec
    (fun i => (i.displayName, i.description, i.beganAt, i.endedAt, i.phase, i.impacts, ()))
    (fun (displayName, description, beganAt, endedAt, phase, impacts, ()) =>
      ⟨displayName, description, beganAt, endedAt, phase, impacts⟩)

/-! ## Updates -/

def incidentUpdate (style : Style) : Codec IncidentUpdate :=
  (cons (required style.incidentId uuid) <| cons (required "order" uint32) <|
    cons (required style.displayName string) <| cons (required "description" string) <|
    cons (required style.createdAt instant) nil).codec
    (fun u => (u.incident, u.order, u.displayName, u.description, u.createdAt, ()))
    (fun (incident, order, displayName, description, createdAt, ()) =>
      ⟨incident, order, displayName, description, createdAt⟩)

def newIncidentUpdate (style : Style) : Codec NewIncidentUpdate :=
  (cons (required style.displayName string) <| cons (defaulted "description" string "") nil).codec
    (fun u => (u.displayName, u.description, ()))
    (fun (displayName, description, ()) => ⟨displayName, description⟩)

/-! ## Configuration -/

def seed : Codec Seed :=
  (cons (defaulted "phases" (list string) []) <|
    cons (defaulted "impact_types" (list (newImpactType .snake)) []) <|
    cons (defaulted "severities" (list (severitySeed .snake)) []) nil).codec
    (fun s => (s.phases, s.impactTypes, s.severities, ()))
    (fun (phases, impactTypes, severities, ()) => ⟨phases, impactTypes, severities⟩)

def config : Codec Config :=
  (cons (defaulted "host" string Config.default.host) <|
    cons (defaulted "port" uint16 Config.default.port) <|
    cons (defaulted "store_path" string Config.default.storePath) <|
    cons (defaulted "provision" seed Config.default.seed) nil).codec
    (fun c => (c.host, c.port, c.storePath, c.seed, ()))
    (fun (host, port, storePath, seed, ()) => ⟨host, port, storePath, seed⟩)

end Codec

end StatusPage.Json
