import StatusPage.Text.Percent
import StatusPage.Text.Split

/-!
Routes.

A route is a place in the interface, with the parts of the path that name entities still as they
were written. Paths are compared letter by letter: a slash too many or a letter in the other case
makes another path. A part that names an entity can be empty in the middle of a path, though not at
its end.
-/

namespace StatusPage.Api

open Text

/-- A place in the interface. -/
inductive Route where
  | components
  | component (id : String)
  | impactTypes
  | impactType (id : String)
  | severities
  | severity (name : String)
  | phases
  | generation
  | incidents
  | incident (id : String)
  | updates (incident : String)
  | update (incident order : String)
  deriving DecidableEq, Repr

namespace Route

/-- The route whose path has these parts below the one that all routes share. -/
def ofSegments? : List String → Option Route
  | ["components"] => some components
  | ["components", id] => some (component id)
  | ["impact-types"] => some impactTypes
  | ["impact-types", id] => some (impactType id)
  | ["severities"] => some severities
  | ["severities", name] => some (severity name)
  | ["phases"] => some phases
  | ["phases", "generation"] => some generation
  | ["incidents"] => some incidents
  | ["incidents", id] => some (incident id)
  | ["incidents", id, "updates"] => some (updates id)
  | ["incidents", id, "updates", order] => some (update id order)
  | _ => none

/-- The route of a path. -/
def ofPath? (path : List Char) : Option Route :=
  match (pieces '/' path).map String.ofList with
  | "" :: "api" :: parts => if parts.getLast? = some "" then none else ofSegments? parts
  | _ => none

end Route

/-- The text that a part of a path stands for, if it is one. -/
def segmentText? (part : String) : Option String :=
  (utf8Strict? (percentDecode part.toList)).map String.ofList

end StatusPage.Api
