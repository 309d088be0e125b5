import Moderation.Ban.Action
import Moderation.Event.Basic
/-!
Requests to act on a player, and the records of bans and gags. Two requests against one player for
one reason in one minute are taken for the same.
-/
namespace Moderation.Ban
open Time

/-- A request; without a length it is permanent. -/
structure Request where
  target : SteamId
  authority : SteamId
  reason : Reason
  note : String
  action : Action
  length : Option Span
  origin : Option Server
  requestedAt : Instant
  deriving DecidableEq

structure Record where
  target : SteamId
  authority : SteamId
  action : Action
  reason : Reason
  note : String
  originId : Option Int
  bucket : Instant
  validUntil : Option Instant
  createdAt : Instant
  deriving DecidableEq

/-- What two records must not share. -/
def Record.key (r : Record) : SteamId × Reason × Instant := (r.target, r.reason, r.bucket)

namespace Request

/-- The end of the ban; there is none if it is permanent or ends after the last date. -/
def expiresAt (r : Request) : Option Instant := r.length.bind r.requestedAt.add?

def bucket (r : Request) : Instant := r.requestedAt.minute

def record (r : Request) : Record :=
  ⟨r.target, r.authority, r.action, r.reason, r.note, r.origin.map (·.id), r.bucket, r.expiresAt,
    r.requestedAt⟩

theorem key_record (r : Request) : r.record.key = (r.target, r.reason, r.bucket) := rfl

end Request
end Moderation.Ban
