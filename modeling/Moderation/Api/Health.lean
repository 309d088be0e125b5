import Moderation.Bus
import Moderation.Event.Document
/-!
The health of the service: how many servers send logs, and how each subscriber of the bus keeps up.
-/
namespace Moderation
open Time

def Subscriber.toJson (s : Subscriber) : Json := .object [
  ("name", .string s.name), ("delivered", .integer s.delivered), ("dropped", .integer s.dropped)]

def Bus.toJson (b : Bus) : Json := .array (b.subscribers.map Subscriber.toJson)

namespace Api

def version : String := "0.1.0"

/-- The report at time `now`, of which only the whole seconds are told. -/
def health (now : Instant) (servers : Nat) (b : Bus) : Json := .object [
  ("status", .string "healthy"), ("version", .string version),
  ("timestamp", .integer (now.nanos / Nat.pow 10 9)), ("servers", .integer servers),
  ("subscribers", b.toJson)]

end Api
end Moderation
