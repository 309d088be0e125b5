import Moderation.Ban.Action
import Moderation.Event.Player
import Moderation.Time.Instant
/-!
Warnings of players. A player with more warnings than the limit is escalated: all their warnings
are handed over and they start anew. A sweep forgets the warnings that are older than the timeout.
-/
namespace Moderation
open Time

structure Warning where
  reason : Ban.Reason
  message : String
  matched : String
  filterId : Int
  pattern : String
  createdAt : Instant
  deriving DecidableEq

namespace Warning

inductive Outcome where
  | warned (count : Nat)
  | escalated (warnings : List Warning)
  deriving DecidableEq

/-- The live warnings of each player, oldest record first. -/
structure Tracker where
  limit : Nat
  timeout : Span
  records : Table SteamId (List Warning)

namespace Tracker

def empty (limit : Nat) (timeout : Span) : Tracker := ⟨limit, timeout, .empty⟩

def live (t : Tracker) (p : SteamId) : List Warning := (t.records.get? p).getD []

def record (t : Tracker) (p : SteamId) (w : Warning) : Outcome × Tracker :=
  let ws := t.live p ++ [w]
  if t.limit < ws.length then (.escalated ws, { t with records := t.records.erase p })
  else (.warned ws.length, { t with records := t.records.insert p ws })

def Fresh (timeout : Span) (now : Instant) (w : Warning) : Prop := now.since w.createdAt ≤ timeout

instance (timeout : Span) (now : Instant) (w : Warning) : Decidable (Fresh timeout now w) :=
  inferInstanceAs (Decidable (_ ≤ _))

def keep (timeout : Span) (now : Instant) (ws : List Warning) : Option (List Warning) :=
  let kept := ws.filter (Fresh timeout now)
  if kept.isEmpty then none else some kept

def total (t : Tracker) : Nat := Number.total (t.records.values.map List.length)

def sweep (t : Tracker) (now : Instant) : Nat × Tracker :=
  let swept := { t with records := t.records.filterMap (keep t.timeout now) }
  (t.total - swept.total, swept)

def count (t : Tracker) (p : SteamId) : Nat := (t.live p).length

def isTracked (t : Tracker) (p : SteamId) : Bool := t.records.contains p

def size (t : Tracker) : Nat := t.records.size

def isEmpty (t : Tracker) : Bool := t.records.isEmpty

end Tracker
end Warning
end Moderation
