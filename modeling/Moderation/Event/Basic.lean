import Moderation.Event.Attribute
import Moderation.Event.Kind
import Moderation.Event.Player
import Moderation.Time.Stamp
/-!
Events: what a server's log reports, one line at a time.
-/
namespace Moderation
open Net Time

structure Server where
  id : Int
  name : String
  deriving DecidableEq

structure Score where
  red : Int
  blu : Int
  deriving DecidableEq

def Score.zero : Score := ⟨0, 0⟩

inductive Payload where
  | say (message : String)
  | connected (address : Option IpAddress)
  | kill (victim : Player) (weapon : String)
  | damage (victim : Option Player) (amount : Int) (weapon : Option String)
  | heal (target : Option Player) (amount : Int)
  | chargeDeployed (medigun : Option String)
  | medicDeath (medic : Player) (ubercharge : Bool)
  | roundEnd (winner : Option Team) (score : Score)
  | mapLoad (map : String)
  | gameOver (reason : String)
  | empty
  deriving DecidableEq

structure Event where
  kind : EventKind
  origin : Server
  actor : Option Player
  occurredAt : Stamp
  payload : Payload
  attributes : Attributes

namespace Event

def bare (kind : EventKind) (origin : Server) (occurredAt : Stamp) : Event :=
  ⟨kind, origin, none, occurredAt, .empty, .empty⟩

def message? (e : Event) : Option String :=
  match e.payload with
  | .say m => if m = "" then none else some m
  | _ => none

end Event
end Moderation
