import StatusPage.Http.MediaType
import StatusPage.Http.Target
import StatusPage.Json

/-!
Requests and responses.

A request has a method, a target, a body and perhaps a header that names the type of the body. A
response has a status and perhaps a JSON value.
-/

namespace StatusPage.Http

/-- The methods that a route can answer; all others are alike. -/
inductive Method where
  | get
  | head
  | post
  | put
  | delete
  | other
  deriving DecidableEq, Repr

/-- The method that a token names. Tokens in another case name other methods. -/
def Method.ofToken? (token : String) : Option Method :=
  match token with
  | "GET" => some .get
  | "HEAD" => some .head
  | "POST" => some .post
  | "PUT" => some .put
  | "DELETE" => some .delete
  | _ => if isToken token.toList then some .other else none

/-- The method that decides how a request is answered: the headers alone are those of the whole. -/
def Method.answeredAs : Method → Method
  | .head => .get
  | method => method

/-- A request. -/
structure Request where
  method : Method
  target : Target
  /-- The header that names the type of the body. -/
  contentType : Option String
  body : List UInt8

/-- Whether a header can have this value: it has no control character but the tab. -/
def isFieldValue (s : String) : Bool :=
  s.toList.all fun c => c = '\t' || (0x20 ≤ c.toNat && c.toNat ≠ 0x7F)

/-- The request with these parts, unless one of them cannot be sent. -/
def Request.make? (method target : String) (contentType : Option String) (body : List UInt8) :
    Option Request := do
  let method ← Method.ofToken? method
  let target ← Target.parse? target
  if contentType.all isFieldValue then some ⟨method, target, contentType, body⟩ else none

/-- A status, and perhaps a JSON value as the body. -/
structure Response where
  status : Nat
  body : Option Json

/-- Whether a response says that the request was carried out. -/
def Response.isSuccess (r : Response) : Bool :=
  200 ≤ r.status && r.status < 300

/-- A response without its body. -/
def Response.headers (r : Response) : Response :=
  ⟨r.status, none⟩

end StatusPage.Http
