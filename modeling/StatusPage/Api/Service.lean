import StatusPage.Api.Call.Answer
import StatusPage.Api.Call.Reading

/-!
The service: from a request to a response.

A request that makes no call is turned away and leaves the store alone. A request for the headers
alone is answered like one for the whole, without the body.
-/

namespace StatusPage.Api

open Http

/-- The response to a request, were it asked for with its body, and the store that it leaves. -/
def serveWhole (m : Moment) (s : Store) (r : Request) : Answered :=
  match Call.ofRequest r with
  | .ok call => call.answer m s
  | .error rejection => (rejection.response, s)

/-- The response to a request and the store that it leaves. -/
def serve (m : Moment) (s : Store) (r : Request) : Answered :=
  let (response, next) := serveWhole m s r
  (if r.method = .head then response.headers else response, next)

/-- A request that is turned away leaves the store as it was. -/
theorem serve_of_rejected {m : Moment} {s : Store} {r : Request} {rejection : Rejection}
    (rejected : Call.ofRequest r = .error rejection) : (serve m s r).2 = s := by
  simp [serve, serveWhole, rejected]

end StatusPage.Api
