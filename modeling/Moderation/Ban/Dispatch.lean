import Moderation.Ban.Request
import Moderation.Services
/-!
Carrying out a request. A ban or gag is stored first and then the player's server is told; a kick
only concerns the server. A request goes through stages, each of which waits for one answer, so
that requests can be carried out side by side.
-/
namespace Moderation
namespace Ban
open Rcon Time

/-- What came of a request; `live` tells whether the running server took the command. -/
inductive Outcome where
  | applied (live : Bool)
  | alreadyApplied
  deriving DecidableEq

inductive DispatchError where
  | store (cause : StoreError)
  | control (cause : ControlError)
  | noOrigin
  deriving DecidableEq

def DispatchError.message : DispatchError → String
  | .store cause => "failed to persist action: " ++ cause.message
  | .control cause => "failed to reach server: " ++ cause.message
  | .noOrigin => "kick requires an origin server"

/-- What is left of a request once nothing has to be stored. -/
inductive Rest where
  | telling (server : Server) (command : Command)
  | done (result : Except DispatchError Outcome)

inductive Stage where
  | storing (record : Record)
  | rest (rest : Rest)

def Request.command (r : Request) : Command :=
  match r.action with
  | .gag => .gag r.target
  | _ => .kick r.target r.reason.label

def Request.start (r : Request) : Stage :=
  match r.action, r.origin with
  | .kick, none => .rest (.done (.error .noOrigin))
  | .kick, some server => .rest (.telling server r.command)
  | _, _ => .storing r.record

def Request.stored (r : Request) : Except StoreError Unit → Rest
  | .ok () => match r.origin with
    | none => .done (.ok (.applied false))
    | some server => .telling server r.command
  | .error .duplicate => .done (.ok .alreadyApplied)
  | .error cause => .done (.error (.store cause))

/-- The result after the answer of the server. What is stored counts as applied in any case. -/
def Request.told (r : Request) : Except ControlError Unit → Except DispatchError Outcome
  | .ok () => .ok (.applied true)
  | .error cause => if r.action = .kick then .error (.control cause) else .ok (.applied false)

end Ban

namespace Services
open Ban

def finish (s : Services) (r : Request) : Rest → Except DispatchError Outcome × Services
  | .telling server c =>
    let (answer, s) := s.tell server c
    (r.told answer, s)
  | .done result => (result, s)

def dispatch (s : Services) (r : Request) : Except DispatchError Outcome × Services :=
  match r.start with
  | .storing record =>
    let (answer, s) := s.write (.applyBan record)
    s.finish r (r.stored answer)
  | .rest rest => s.finish r rest

end Services
end Moderation
