import Moderation.Bus
import Moderation.Ingest.Ingestor
/-!
Routes of log lines. Each server has a queue of batches and an ingestor of its own from its first
batch on. A batch is taken in if there is room in the queue of its server; what one server does is
of no concern to the others.
-/
namespace Moderation.Ingest
open Number Time

inductive IngestError where
  | queueFull (server : String)
  | closed (server : String)
  deriving DecidableEq

def IngestError.message : IngestError → String
  | .queueFull server => "ingestion queue for server '" ++ server ++ "' is full"
  | .closed server => "ingestion for server '" ++ server ++ "' has stopped"

def IngestError.ofRefusal (server : String) : Refusal → IngestError
  | .full => .queueFull server
  | .closed => .closed server

structure Route where
  queue : Queue Batch
  ingestor : Ingestor

structure Router where
  capacity : Nat
  routes : Table Int Route
  isCancelled : Bool

namespace Router

def start (capacity : Nat) : Router := ⟨capacity, .empty, false⟩

def route (r : Router) (id : Int) : Route :=
  (r.routes.get? id).getD ⟨.ofCapacity r.capacity, .fresh⟩

/-- Takes in a batch. The server has a route afterwards in any case. -/
def submit (r : Router) (b : Batch) : Except IngestError Unit × Router :=
  let route := r.route b.server.id
  match route.queue.offer b with
  | .ok queue => (.ok (), { r with routes := r.routes.insert b.server.id { route with queue } })
  | .error cause =>
    (.error (.ofRefusal b.server.name cause), { r with routes := r.routes.insert b.server.id route })

def take? (r : Router) (id : Int) : Option (Batch × Router) := do
  let route ← r.routes.get? id
  let (b, queue) ← route.queue.take?
  return (b, { r with routes := r.routes.insert id { route with queue } })

def setIngestor (r : Router) (id : Int) (i : Ingestor) : Router :=
  { r with routes := r.routes.insert id { r.route id with ingestor := i } }

def closeRoute (r : Router) (id : Int) : Router :=
  { r with routes := r.routes.insert id { r.route id with queue := (r.route id).queue.close } }

def cancel (r : Router) : Router :=
  ⟨r.capacity, r.routes.map fun route => { route with queue := route.queue.close }, true⟩

def size (r : Router) : Nat := r.routes.size

def waiting (r : Router) : Nat := Number.total (r.routes.values.map (·.queue.items.length))

end Router

structure Intake where
  router : Router
  bus : Bus
  unhandled : List String

namespace Intake

def publish (x : Intake) (entries : List Entry) : Intake :=
  { x with
    bus := x.bus.publishAll (entries.filterMap Entry.event?)
    unhandled := x.unhandled ++ entries.filterMap Entry.unhandled? }

def file (x : Intake) : String := String.join (x.unhandled.map (· ++ "\n"))

/-- Ingests the next batch of a server, read at time `now`; gives what came of its lines. After an
overflow, or once ingestion has been cancelled, the server sends in vain. -/
def ingestNext? (x : Intake) (now : Stamp) (id : Int) : Option (List Entry × Intake) := do
  let (b, router) ← x.router.take? id
  if router.isCancelled then return ([], { x with router := router.closeRoute id })
  let (entries, result) := (router.route id).ingestor.ingest now b.server b.lines
  let router := match result with
    | .ok i => router.setIngestor id i
    | .error _ => router.closeRoute id
  return (entries, { x with router }.publish entries)

end Intake
end Moderation.Ingest
