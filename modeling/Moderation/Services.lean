import Moderation.Rcon.Command
/-!
The services that are called: the store and the consoles of game servers. Every call has a time
limit. A call changes its service only if it succeeds.
-/
namespace Moderation
open Rcon Time

structure Services where
  stored : Store
  storeFault : Fault
  sent : Sent
  controlFault : Fault
  limit : Span

namespace Services

def ofStore (s : Store) (limit : Span) : Services := ⟨s, .none, [], .none, limit⟩

def write (s : Services) (w : Store.Write) : Except StoreError Unit × Services :=
  let (answer, stored) := s.storeFault.write s.limit s.stored w
  (answer, { s with stored })

def tell (s : Services) (server : Server) (c : Command) : Except ControlError Unit × Services :=
  let (answer, sent) := Rcon.tell s.controlFault s.limit s.sent server c
  (answer, { s with sent })

end Services
end Moderation
