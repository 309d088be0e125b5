import Moderation.Match.Basic
/-!
The live matches of all servers, at most one for each. A map load opens a match, the end of the log
or of the game seals it, and events of a server without a match are discarded.
-/
namespace Moderation.Match
open Number Time

inductive Transition where
  | discarded
  | created (id : MatchId)
  | applied
  | sealed (result : Sealed)

structure Book where
  live : Table Int Match

namespace Book

def empty : Book := ⟨.empty⟩

/-- Handles an event at time `now`; a match that it opens gets the id `fresh`. A rejected event
leaves the match as it is and may still seal it. -/
def handle (b : Book) (fresh : MatchId) (now : Instant) (e : Event) :
    Except Overflow (Transition × Book) :=
  let id := e.origin.id
  match b.live.get? id with
  | none =>
    match e.kind, e.payload with
    | .mapLoad, .mapLoad map =>
      .ok (.created fresh, ⟨b.live.insert id (.start fresh e.origin map now)⟩)
    | _, _ => .ok (.discarded, b)
  | some m =>
    match m.apply e with
    | (_, .overflowed o) => .error o
    | (m, _) =>
      if e.kind.isTerminal then .ok (.sealed (m.finish now), ⟨b.live.erase id⟩)
      else .ok (.applied, ⟨b.live.insert id m⟩)

def isLive (b : Book) (server : Int) : Bool := b.live.contains server

def size (b : Book) : Nat := b.live.size

def isEmpty (b : Book) : Bool := b.live.isEmpty

end Book
end Moderation.Match
