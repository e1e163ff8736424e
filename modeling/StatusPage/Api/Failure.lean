import StatusPage.Http.Message
import StatusPage.Store.Fault

/-!
How a failed request is answered.

A request that reaches the page can fail in the store, or ask for an entity that is not there. Its
answer is a status for the kind of failure and a record with the text of what went wrong.
-/

namespace StatusPage.Api

open Http Text

/-- An entity that a request can ask for by itself. -/
inductive Subject where
  | component (id : Uuid)
  | impactType (id : Uuid)
  | severity (name : String)
  | incident (id : Uuid)
  | update (incident : Uuid) (order : UInt32)
  deriving DecidableEq

/-- How an entity is named in an answer. -/
def Subject.text : Subject → String
  | .component id => "component " ++ id.text
  | .impactType id => "impact type " ++ id.text
  | .severity name => "severity " ++ name
  | .incident id => "incident " ++ id.text
  | .update id order => "update " ++ natural order.toNat ++ " of incident " ++ id.text

/-- Why a request failed. -/
inductive Failure where
  /-- The store did not do what was asked. -/
  | store (fault : Store.Fault)
  /-- There is no such entity. -/
  | absent (subject : Subject)
  deriving DecidableEq

/-- The status for a kind of failure. -/
def statusOf : ErrorKind → Nat
  | .invalidArgument => 400
  | .notFound => 404
  | .conflict => 409
  | .storeUnavailable => 500

/-- The words for a kind of failure. -/
def headingOf : ErrorKind → String
  | .invalidArgument => "bad request"
  | .notFound => "not found"
  | .conflict => "conflict"
  | .storeUnavailable => "store error"

namespace Failure

def kind : Failure → ErrorKind
  | .store fault => fault.kind
  | .absent _ => .notFound

/-- What went wrong, as the answer says it. -/
def text : Failure → String
  | .store fault => fault.message
  | .absent subject => subject.text ++ " not found"

/-- What went wrong under a heading for its kind. -/
def message (f : Failure) : String :=
  headingOf f.kind ++ ": " ++ f.text

def response (f : Failure) : Response :=
  ⟨statusOf f.kind, some (.object [("error", .string f.text)])⟩

end Failure

end StatusPage.Api
