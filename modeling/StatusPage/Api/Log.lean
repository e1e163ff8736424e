import StatusPage.Api.Service
import StatusPage.Text.Utf8

/-!
Logs of requests.

An entry of a log is a request together with the instant at which it arrives. Replaying an entry
answers the request at that instant; an entry whose request cannot be sent is answered like one that
cannot be read.
-/

namespace StatusPage.Api

open Http Json

/-- A request and the instant at which it arrives. -/
structure LogEntry where
  now : Instant
  method : String
  target : String
  contentType : Option String
  body : String
  deriving DecidableEq

/-- The response to a request that cannot be sent. -/
def unreadableRequest : Response := ⟨400, none⟩

namespace LogEntry

/-- The request of an entry, if it can be sent. -/
def request? (e : LogEntry) : Option Request :=
  Request.make? e.method e.target e.contentType (Text.utf8Encode e.body.toList)

/-- Answers the request of an entry; `draw` are the identifiers that may be drawn. -/
def replay (draw : Nat → Uuid) (s : Store) (e : LogEntry) : Answered :=
  match e.request? with
  | some request => serve ⟨e.now, draw⟩ s request
  | none => (unreadableRequest, s)

end LogEntry

end StatusPage.Api

namespace StatusPage.Json.Codec

open Api Fields RecordField

def logEntry : Codec LogEntry :=
  (cons (required "now" instant) <| cons (required "method" string) <|
    cons (required "path" string) <| cons (optional "contentType" string) <|
    cons (defaulted "body" string "") nil).codec
    (fun e => (e.now, e.method, e.target, e.contentType, e.body, ()))
    (fun (now, method, target, contentType, body, ()) => ⟨now, method, target, contentType, body⟩)

/-- The record of a response. -/
def response (r : Http.Response) : Json :=
  .object (("status", .int r.status) :: r.body.toList.map fun body => ("body", body))

end StatusPage.Json.Codec
