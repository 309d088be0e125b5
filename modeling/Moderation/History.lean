import Moderation.Store.Basic
/-!
Histories of chat and connections: what of an event is recorded.
-/
namespace Moderation.History
open Time

def chatRecord? (e : Event) : Option ChatRecord := do
  if !e.kind.isChat then none
  let p ← e.actor
  let m ← e.message?
  return ⟨p.steamId, e.origin.id, p.name, m, e.kind = .sayTeam, e.occurredAt⟩

/-- The record of a connection; the address of the event counts before that of the player. -/
def connectionRecord? (e : Event) : Option ConnectionRecord := do
  if e.kind ≠ .connected then none
  let p ← e.actor
  let address := match e.payload with
    | .connected address => address <|> p.address
    | _ => p.address
  return ⟨p.steamId, e.origin.id, p.name, address, e.occurredAt⟩

def write? (e : Event) : Option Store.Write :=
  match chatRecord? e with
  | some r => some (.appendChat r)
  | none => (connectionRecord? e).map .appendConnection

/-- Records an event under a time limit; tells whether there was anything to record. -/
def record (f : Fault) (limit : Span) (s : Store) (e : Event) :
    Except StoreError Bool × Store :=
  match write? e with
  | none => (.ok false, s)
  | some w => match f.write limit s w with
    | (.ok (), s) => (.ok true, s)
    | (.error cause, s) => (.error cause, s)

end Moderation.History
