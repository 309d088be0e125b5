import Moderation.Warning.Filter
import Moderation.Warning.Tracker
import Moderation.Worker.Job
/-!
The warning engine. A chat message that a filter matches is an offence: it is counted for the
filter and for the player, who is either warned or, beyond the limit, acted on; moderators get a
notice in any case.
-/
namespace Moderation.Warning
open Notice Text Time Worker

/-- What offences lead to. Without a length the action is permanent. -/
structure Policy where
  limit : Nat
  timeout : Span
  action : Ban.Action
  length : Option Span
  authority : SteamId
  externalUrl : String

structure Engine where
  policy : Policy
  filters : List Filter
  tracker : Tracker

structure Offence where
  player : Player
  message : String
  found : Found

def warningText (count : Nat) : String :=
  "[WARN #" ++ showNat count ++ "] Please refrain from using slurs/toxicity (see: rules & MOTD). " ++
    "Further offenses will result in mutes/bans"

def note : String := "Automatic warning ban"

namespace Offence

def warning (o : Offence) (now : Instant) : Warning :=
  ⟨.language, o.message, o.found.matched, o.found.filterId, o.found.pattern, now⟩

def request (o : Offence) (p : Policy) (origin : Server) (now : Instant) : Ban.Request :=
  ⟨o.player.steamId, p.authority, .language, note, p.action, p.length, some origin, now⟩

end Offence

def Outcome.count : Outcome → Nat
  | .warned n => n
  | .escalated ws => ws.length

def Engine.offence? (g : Engine) (e : Event) : Option Offence := do
  if !e.kind.isChat then none
  let player ← e.actor
  if ¬player.steamId.Valid then none
  let message ← e.message?
  let found ← find? g.filters message
  return ⟨player, message, found⟩

/-- The work that an outcome asks for, after the trigger has been counted. -/
def Outcome.job (out : Outcome) (p : Policy) (o : Offence) (origin : Server) (now : Instant) : Job :=
  match out with
  | .warned n => .tell origin (.psay o.player.steamId (warningText n))
  | .escalated _ => .act (o.request p origin now)

def addEscalation (m : Embed) (r : Ban.Request) (player : Player) (now : Instant) : Embed :=
  let (expiresIn, expiresAt) := match r.expiresAt with
    | some t => ((t.since now).coarse, t.toMinute)
    | none => ("Permanent", "Permanent")
  ((m.add "Name" player.name).add "Expires In" expiresIn).add "Expires At" expiresAt

def Outcome.notice (out : Outcome) (p : Policy) (o : Offence) (origin : Server)
    (now dated : Instant) : Notice :=
  let title := "Language Warning (#" ++ showNat out.count ++ "/" ++ showNat p.limit ++ ")"
  let m := (Embed.titled title .orange dated).link
    (p.externalUrl ++ "/profiles/" ++ o.player.steamId.text)
  let m := (m.add "Matched" o.found.matched).add "Message" o.message
  let m := match out with
    | .warned _ => m
    | .escalated _ => addEscalation m (o.request p origin now) o.player now
  let m := (m.add "Pattern" o.found.pattern).addSteamId o.player.steamId
  ⟨.modLog, (m.addInline "Filter ID" (showInt o.found.filterId)).addInline "Server" origin.name⟩

/-- What an offence leads to: the jobs in the order in which they are placed, and the notice. -/
structure Reaction where
  outcome : Outcome
  jobs : List Job
  notice : Notice

namespace Engine

def start (p : Policy) (filters : List Filter) : Engine :=
  ⟨p, filters, .empty p.limit p.timeout⟩

def handle (g : Engine) (e : Event) (now dated : Instant) : Option Reaction × Engine :=
  match g.offence? e with
  | none => (none, g)
  | some o =>
    let (out, tracker) := g.tracker.record o.player.steamId (o.warning now)
    (some ⟨out, [.countTrigger o.found.filterId, out.job g.policy o e.origin now],
      out.notice g.policy o e.origin now dated⟩, { g with tracker })

def sweep (g : Engine) (now : Instant) : Nat × Engine :=
  let (n, tracker) := g.tracker.sweep now
  (n, { g with tracker })

end Engine

structure Desk where
  engine : Engine
  office : Office

namespace Desk

def handle (d : Desk) (e : Event) (now dated : Instant) : Option Outcome × Desk :=
  match d.engine.handle e now dated with
  | (none, engine) => (none, { d with engine })
  | (some r, engine) => (some r.outcome, ⟨engine, (d.office.placeAll r.jobs).post r.notice⟩)

def sweep (d : Desk) (now : Instant) : Nat × Desk :=
  let (n, engine) := d.engine.sweep now
  (n, { d with engine })

def settle (d : Desk) (now : Instant) : Desk := { d with office := d.office.settle now }

end Desk
end Moderation.Warning
