/-!
The kinds of events and their names.
-/
namespace Moderation

inductive EventKind where
  | say
  | sayTeam
  | connected
  | roundStart
  | roundEnd
  | mapLoad
  | logStart
  | logStop
  | gameOver
  | kill
  | damage
  | heal
  | chargeDeployed
  | medicDeath
  | unknown
  | ignored
  deriving DecidableEq

namespace EventKind

def all : List EventKind :=
  [say, sayTeam, connected, roundStart, roundEnd, mapLoad, logStart, logStop, gameOver, kill,
    damage, heal, chargeDeployed, medicDeath, unknown, ignored]

def name : EventKind → String
  | say => "say"
  | sayTeam => "say_team"
  | connected => "connected"
  | roundStart => "round_start"
  | roundEnd => "round_end"
  | mapLoad => "map_load"
  | logStart => "log_start"
  | logStop => "log_stop"
  | gameOver => "game_over"
  | kill => "kill"
  | damage => "damage"
  | heal => "heal"
  | chargeDeployed => "charge_deployed"
  | medicDeath => "medic_death"
  | unknown => "unknown"
  | ignored => "ignored"

def ofName? (s : String) : Option EventKind := all.find? (·.name = s)

def isTerminal : EventKind → Bool
  | logStop => true
  | gameOver => true
  | _ => false

def isChat : EventKind → Bool
  | say => true
  | sayTeam => true
  | _ => false

end EventKind
end Moderation
