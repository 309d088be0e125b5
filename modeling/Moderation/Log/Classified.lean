import Moderation.Event.Basic
import Moderation.Log.Statement
import Moderation.Time.Rfc3339
/-!
Classified lines: the event of a log line. A line of unfamiliar form gives an event of unknown kind;
one of a familiar form with a bad field gives such an event together with the failure.
-/
namespace Moderation.Log
open Net Number Text Time

inductive Failure where
  | time (text : String)
  | integer (key : String)
  | winner
  deriving DecidableEq

def Failure.message : Failure → String
  | .time text => "invalid timestamp: " ++ text
  | .integer key => "missing or non-numeric '" ++ key ++ "'"
  | .winner => "round win without winner"

structure Classified where
  event : Event
  failure : Option Failure

namespace Classified

def unknown (origin : Server) (time : Stamp) (failure : Failure) : Classified :=
  ⟨.bare .unknown origin time, some failure⟩

end Classified

/-- The player of a tag. A steam field of another form gives the id zero. -/
def Tag.player (t : Tag) : Except Overflow Player := do
  let id ← SteamId.ofSteam3? t.steam
  return ⟨id.getD .none, String.ofList t.name, .ofField (String.ofList t.team), none⟩

def roundScore : Team → Score
  | .red => ⟨1, 0⟩
  | .blu => ⟨0, 1⟩
  | _ => .zero

structure Content where
  kind : EventKind
  actor : Option Player
  payload : Payload
  attributes : Attributes

namespace Content

def bare (kind : EventKind) : Content := ⟨kind, none, .empty, .empty⟩

def amount (as : Attributes) (key : String) : Except Failure Int :=
  match as.integer? key with
  | some n => .ok n
  | none => .error (.integer key)

def ofTriggerAgainst (what : String) (actor other : Player) (as : Attributes) :
    Except Failure Content := do
  match what with
  | "damage" =>
    return ⟨.damage, actor, .damage other (← amount as "damage") (as.text? "weapon"), as⟩
  | "healed" => return ⟨.heal, actor, .heal other (← amount as "healing"), as⟩
  | "medic_death" =>
    return ⟨.medicDeath, actor, .medicDeath other ((as.bool? "ubercharge").getD false), as⟩
  | _ => return ⟨.ignored, actor, .empty, as⟩

def ofTrigger (what : String) (as : Attributes) : Except Failure (EventKind × Payload) := do
  match what with
  | "chargedeployed" => return (.chargeDeployed, .chargeDeployed (as.text? "medigun"))
  | "damage" => return (.damage, .damage none (← amount as "damage") (as.text? "weapon"))
  | _ => return (.ignored, .empty)

def ofWorldTrigger (what : String) (rest : List Char) : Except Failure Content :=
  match what with
  | "Round_Start" => .ok (bare .roundStart)
  | "Round_Win" =>
    let as := attributesOf rest
    match as.text? "winner" with
    | none => .error .winner
    | some w =>
      let winner := Team.ofField w
      .ok ⟨.roundEnd, none, .roundEnd winner (roundScore winner), as⟩
  | "Round_Stalemate" => .ok ⟨.roundEnd, none, .roundEnd none .zero, .empty⟩
  | "Game_Over" =>
    .ok ⟨.gameOver, none, .gameOver (String.ofList ((reason? rest).getD [])), .empty⟩
  | _ => .ok (bare .ignored)

/-- What a statement reports. The players it names are read first, except that a trigger without
another player is read from its properties on. -/
def ofStatement (body : List Char) : Statement → Except Overflow (Except Failure Content)
  | .said speaker toTeam message => do
    let kind := if toTeam then EventKind.sayTeam else .say
    return .ok ⟨kind, ← speaker.player, .say (String.ofList message), .empty⟩
  | .joined player address => do
    let address := IpAddress.ofField? address
    return .ok ⟨.connected, some { ← player.player with address }, .connected address, .empty⟩
  | .killed attacker victim weapon rest => do
    return .ok ⟨.kill, ← attacker.player, .kill (← victim.player) (String.ofList weapon),
      attributesOf rest⟩
  | .triggeredAgainst actor what other rest => do
    return ofTriggerAgainst (String.ofList what) (← actor.player) (← other.player)
      (attributesOf rest)
  | .triggered actor what rest =>
    let as := attributesOf rest
    match ofTrigger (String.ofList what) as with
    | .error failure => .ok (.error failure)
    | .ok (kind, payload) => do return .ok ⟨kind, ← actor.player, payload, as⟩
  | .worldTriggered what rest => .ok (ofWorldTrigger (String.ofList what) rest)
  | .loading map => .ok (.ok ⟨.mapLoad, none, .mapLoad (String.ofList map), .empty⟩)
  | .logStarted => .ok (.ok ⟨.logStart, none, .empty, attributesOf body⟩)
  | .logClosed => .ok (.ok (bare .logStop))
  | .noise => .ok (.ok (bare .ignored))
  | .other => .ok (.ok (bare .unknown))

end Content

/-- Time and body of a line; a line without a header has the time of its reading. -/
def timed (now : Stamp) (s : List Char) : Except Failure (Stamp × List Char) :=
  match header? s with
  | none => .ok (now, s)
  | some (text, body) =>
    match Stamp.ofHeader? text with
    | some time => .ok (time, body)
    | none => .error (.time (String.ofList text))

/-- The event of a line that is read at time `now`. The one thing that fails altogether is an
account number too large for a steam id. -/
def classify (now : Stamp) (origin : Server) (line : String) : Except Overflow Classified := do
  match timed now (tidy line.toList) with
  | .error failure => return .unknown origin now failure
  | .ok (time, body) =>
    if (trim body).isEmpty then return ⟨.bare .ignored origin time, none⟩
    match ← Content.ofStatement body (.ofBody body) with
    | .error failure => return .unknown origin time failure
    | .ok c => return ⟨⟨c.kind, origin, c.actor, time, c.payload, c.attributes⟩, none⟩

end Moderation.Log
