import StatusPage.Instant.Written
import StatusPage.Phase
import StatusPage.Text.Quoted
import StatusPage.Uuid

/-!
Refusals.

`Error` lists the reasons for which a request is refused whatever keeps the data: something in it
breaks a rule, something it names does not exist, or it clashes with what is there. Each reason has
one wording, `Error.message`, and belongs to one of the four kinds that callers can tell apart.
-/

namespace StatusPage

open Text

/-- What a display name can be the name of. -/
inductive Named where
  | component
  | impactType
  | severity
  | incident
  | update
  deriving DecidableEq, Repr

/-- The rule that a value from a caller breaks. -/
inductive Violation where
  /-- A display name has nothing visible in it. -/
  | blankName (named : Named)
  /-- A label key has nothing visible in it. -/
  | blankLabelKey
  /-- A part of a selector has no colon. -/
  | pairWithoutColon (segment : String)
  /-- A part of a selector has nothing before its colon. -/
  | pairWithoutKey (segment : String)
  /-- A selector asks for two values of one key. -/
  | keySelectedTwice (key first second : String)
  /-- A severity lies outside the scale. -/
  | severityOutside (value : Int)
  /-- Generations are numbered from one. -/
  | generationBelowOne (requested : Int)
  /-- A generation has no phases. -/
  | noPhases
  /-- The phase at a position has a blank name. -/
  | blankPhase (position : Nat)
  /-- A window ends before it begins. -/
  | endsBeforeBegin (ended began : Instant)
  /-- An incident has two impacts of one type on one component. -/
  | impactedTwice (component impactType : Uuid)
  /-- A rule that the caller states in its own words. -/
  | stated (text : String)
  deriving DecidableEq

/-- Why a request is refused. -/
inductive Error where
  | invalid (violation : Violation)
  | incidentNotFound (id : Uuid)
  | componentNotFound (id : Uuid)
  | impactTypeNotFound (id : Uuid)
  | severityNotFound (name : String)
  | generationNotFound (generation : UInt32)
  | phaseNotFound (phase : PhaseRef)
  | updateNotFound (incident : Uuid) (order : UInt32)
  | conflict (text : String)
  deriving DecidableEq

/-- The kinds of refusal that callers can tell apart. -/
inductive ErrorKind where
  | invalidArgument
  | notFound
  | conflict
  | storeUnavailable
  deriving DecidableEq, Repr

def Named.text : Named → String
  | .component => "component"
  | .impactType => "impact type"
  | .severity => "severity"
  | .incident => "incident"
  | .update => "update"

def Violation.message : Violation → String
  | .blankName named => named.text ++ " display name must not be empty"
  | .blankLabelKey => "label keys must not be empty"
  | .pairWithoutColon segment => "label selector " ++ quoted segment ++ " is not key:value"
  | .pairWithoutKey segment => "label selector " ++ quoted segment ++ " has an empty key"
  | .keySelectedTwice key first second =>
    "label " ++ quoted key ++ " selected with both " ++ quoted first ++ " and " ++ quoted second
  | .severityOutside value => "severity " ++ integer value ++ " is outside 0..=100"
  | .generationBelowOne requested =>
    "phase generation must be at least 1, got " ++ integer requested
  | .noPhases => "a phase generation needs at least one phase"
  | .blankPhase position => "phase name at position " ++ natural position ++ " is empty"
  | .endsBeforeBegin ended began =>
    "incident ends at " ++ ended.shown ++ " before it begins at " ++ began.shown
  | .impactedTwice component impactType =>
    "component " ++ component.text ++ " is impacted twice with type " ++ impactType.text
  | .stated text => text

namespace Error

def message : Error → String
  | .invalid violation => "invalid argument: " ++ violation.message
  | .incidentNotFound id => "incident not found: " ++ id.text
  | .componentNotFound id => "component not found: " ++ id.text
  | .impactTypeNotFound id => "impact type not found: " ++ id.text
  | .severityNotFound name => "severity not found: " ++ quoted name
  | .generationNotFound generation =>
    "phase generation " ++ natural generation.toNat ++ " does not exist"
  | .phaseNotFound phase =>
    "phase " ++ natural phase.order.toNat ++ " of generation " ++ natural phase.generation.toNat ++
      " does not exist"
  | .updateNotFound incident order =>
    "update " ++ natural order.toNat ++ " of incident " ++ incident.text ++ " not found"
  | .conflict text => "conflict: " ++ text

def kind : Error → ErrorKind
  | .invalid _ => .invalidArgument
  | .conflict _ => .conflict
  | _ => .notFound

end Error

end StatusPage
