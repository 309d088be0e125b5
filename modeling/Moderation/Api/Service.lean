import Moderation.Api.Body
import Moderation.Api.Failure
import Moderation.Api.Health
import Moderation.Api.MediaType
import Moderation.Digest.Sha256
import Moderation.Ingest.Reception
import Moderation.Store.Call
/-!
The service over HTTP. Game servers send their log lines and say who they are by a token; everybody
may ask for the health of the service. A request is refused by the first check that it fails:
who sent it, where it goes, its form, the number of its lines, and the room in the queue.
-/
namespace Moderation.Api
open Digest Ingest Text Time

/-- A request; a header that is not there is `none`. Its body is text: bodies that are not UTF-8 are
left out. -/
structure Request where
  method : String
  target : String
  authorization : Option String
  contentType : Option String
  body : String

structure Response where
  status : Nat
  body : Option Json

namespace Response

def bare (status : Nat) : Response := ⟨status, none⟩

def ofFailure (f : Failure) : Response := ⟨f.status, some f.body⟩

end Response

def Request.path (r : Request) : String :=
  String.ofList (r.target.toList.takeWhile fun c => c ≠ '?' ∧ c ≠ '#')

def maxBodySize : Nat := 2097152

def maxLines : Nat := 5000

def isReadable (s : List Char) : Bool :=
  s.all fun c => c = '\t' || 0x20 ≤ c.toNat && c.toNat < 0x7F

def Request.token? (r : Request) : Option String := do
  let header ← r.authorization
  if !isReadable header.toList then none
  let token := trim (← dropPrefix? "Bearer ".toList header.toList)
  if token.isEmpty then none else return String.ofList token

def Request.isJson (r : Request) : Bool :=
  ((r.contentType.bind fun s => MediaType.ofText? s.toList).map fun t => decide t.IsJson).getD false

/-- The lines of a request, or the response that refuses its form; `complaint` is the text about a
wrong number of lines. -/
def Request.lines (r : Request) (complaint : List String → String) :
    Except Response (List String) :=
  if !r.isJson then .error (.bare 415)
  else if maxBodySize < r.body.utf8ByteSize then .error (.bare 413)
  else match Body.read r.body.toList with
    | .error .malformed => .error (.bare 400)
    | .error .unfit => .error (.bare 422)
    | .ok lines =>
      if lines.isEmpty ∨ maxLines < lines.length then
        .error (.ofFailure (.validation (complaint lines)))
      else .ok lines

/-- The service: the store with the servers and their tokens, the reception of log lines, and the
text about a wrong number of lines, which a library words. -/
structure Service where
  archive : Archive
  reception : Reception
  complaint : List String → String

namespace Service

def authenticate (s : Service) (token : Option String) : Except Failure Server :=
  match token with
  | none => .error .unauthorized
  | some token =>
    match s.archive.call fun store => store.serverOfToken? (Sha256.ofText token) with
    | .error e => .error (.ofStore e)
    | .ok none => .error .unauthorized
    | .ok (some record) => if record.isEnabled then .ok ⟨record.id, record.name⟩ else .error .forbidden

def accept (s : Service) (r : Request) (server : Server) : Response × Service :=
  match r.lines s.complaint with
  | .error response => (response, s)
  | .ok lines =>
    let (answer, reception) := s.reception.submit ⟨server, lines⟩
    (match answer with
      | .ok () => ⟨202, some (.object [("accepted", .integer lines.length)])⟩
      | .error e => .ofFailure (.ofIngest e), { s with reception })

/-- What has been received is ingested while the store takes its time. -/
def waited (s : Service) (now : Instant) (token : Option String) : Service :=
  if token.isNone || (s.archive.begin .zero).isOver .zero then s
  else { s with reception := s.reception.settle (.ofInstant now) }

def serve (s : Service) (r : Request) (server : Server) : Response × Service :=
  if r.path ≠ "/api/v1/log" then (.bare 404, s)
  else if r.method ≠ "POST" then (.bare 405, s)
  else s.accept r server

def respond (s : Service) (now : Instant) (r : Request) : Response × Service :=
  if r.path = "/health" then
    if r.method = "GET" ∨ r.method = "HEAD" then
      (⟨200, some (health now s.reception.intake.router.size s.reception.intake.bus)⟩, s)
    else (.bare 405, s)
  else
    let s := s.waited now r.token?
    match s.authenticate r.token? with
    | .error f => (.ofFailure f, s)
    | .ok server => s.serve r server

/-- Answers a request at time `now`. The response to `HEAD` has no body. -/
def handle (s : Service) (now : Instant) (r : Request) : Response × Service :=
  let (response, s) := s.respond now r
  (if r.method = "HEAD" then .bare response.status else response, s)

def settle (s : Service) (now : Instant) : Service :=
  { s with reception := s.reception.settle (.ofInstant now) }

def cancel (s : Service) : Service := { s with reception := s.reception.cancel }

end Service
end Moderation.Api
