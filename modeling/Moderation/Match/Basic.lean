import Moderation.Match.Tally
import Moderation.Text.Hex
/-!
A match: what one server plays from a map load to the end of the log or game. Events are applied to
it one by one. An event is accepted or rejected as a whole; one that makes a total overflow stops
halfway.
-/
namespace Moderation
open Number Time

structure MatchId where
  number : Nat
  deriving DecidableEq

def MatchId.text (id : MatchId) : String :=
  let digits := Text.Hex.digits 32 id.number
  let group (start length : Nat) := String.ofList ((digits.drop start).take length)
  "-".intercalate [group 0 8, group 8 4, group 12 4, group 16 4, group 20 12]

structure Round where
  startedAt : Option Stamp
  endedAt : Stamp
  winner : Option Team
  score : Score
  deriving DecidableEq

/-- A live match. `openRound` is the start of the round under way, if one was seen. -/
structure Match where
  id : MatchId
  server : Server
  map : String
  createdAt : Instant
  rounds : List Round
  openRound : Option Stamp
  teams : Table Team Match.Tally
  players : Table SteamId Match.Line

namespace Match

def start (id : MatchId) (server : Server) (map : String) (createdAt : Instant) : Match :=
  ⟨id, server, map, createdAt, [], none, .empty, .empty⟩

inductive Rejection where
  | wrongServer (expected got : Int)
  | missingActor (kind : EventKind)
  | payloadMismatch (kind : EventKind)
  | negativeAmount (kind : EventKind) (amount : Int)
  deriving DecidableEq

open Text in
def Rejection.message : Rejection → String
  | .wrongServer expected got =>
    "event from server " ++ showInt got ++ " applied to match of server " ++ showInt expected
  | .missingActor kind => kind.name ++ " event without an acting player"
  | .payloadMismatch kind => kind.name ++ " event carries an unexpected payload"
  | .negativeAmount kind amount =>
    "negative amount " ++ showInt amount ++ " on " ++ kind.name ++ " event"

inductive Credit where
  | team (team : Team) (stat : Stat) (amount : Int)
  | player (player : Player) (stat : Stat) (amount : Int)

def creditsOf (p : Player) (s : Stat) (n : Int) : List Credit := [.team p.team s n, .player p s n]

inductive Effect where
  | rename (map : String)
  | openRound (startedAt : Stamp)
  | closeRound (endedAt : Stamp) (winner : Option Team) (score : Score)
  | credit (credits : List Credit)

def actor (e : Event) : Except Rejection Player :=
  match e.actor with
  | some p => .ok p
  | none => .error (.missingActor e.kind)

def natural (e : Event) (amount : Int) : Except Rejection Int :=
  if amount < 0 then .error (.negativeAmount e.kind amount) else .ok amount

def effect (e : Event) : Except Rejection Effect := do
  match e.kind, e.payload with
  | .mapLoad, .mapLoad map => return .rename map
  | .roundStart, _ => return .openRound e.occurredAt
  | .roundEnd, .roundEnd winner score => return .closeRound e.occurredAt winner score
  | .kill, .kill victim _ =>
    let attacker ← actor e
    return .credit [.team attacker.team .kills 1, .team victim.team .deaths 1,
      .player attacker .kills 1, .player victim .deaths 1]
  | .damage, .damage _ amount _ =>
    let p ← actor e
    return .credit (creditsOf p .damage (← natural e amount))
  | .heal, .heal _ amount =>
    let p ← actor e
    return .credit (creditsOf p .healing (← natural e amount))
  | .chargeDeployed, _ => return .credit (creditsOf (← actor e) .charges 1)
  | .medicDeath, .medicDeath medic ubercharge =>
    return .credit (if ubercharge then creditsOf medic .drops 1 else [])
  | .mapLoad, _ => .error (.payloadMismatch e.kind)
  | .roundEnd, _ => .error (.payloadMismatch e.kind)
  | .kill, _ => .error (.payloadMismatch e.kind)
  | .damage, _ => .error (.payloadMismatch e.kind)
  | .heal, _ => .error (.payloadMismatch e.kind)
  | .medicDeath, _ => .error (.payloadMismatch e.kind)
  | _, _ => return .credit []

def enroll (m : Match) (p : Player) : Match × Tally :=
  let tally := match m.players.get? p.steamId with
    | some line => line.tally
    | none => .zero
  ({ m with players := m.players.insert p.steamId ⟨p.name, p.team, tally⟩ }, tally)

/-- Counts one credit. Players without a valid steam id are not counted. -/
def count (m : Match) : Credit → Match × Except Overflow Unit
  | .team t s n =>
    match ((m.teams.get? t).getD .zero).add s n with
    | .ok tally => ({ m with teams := m.teams.insert t tally }, .ok ())
    | .error o => (m, .error o)
  | .player p s n =>
    if p.steamId.Valid then
      let (m, tally) := m.enroll p
      match tally.add s n with
      | .ok tally =>
        ({ m with players := m.players.insert p.steamId ⟨p.name, p.team, tally⟩ }, .ok ())
      | .error o => (m, .error o)
    else (m, .ok ())

/-- Counts credits up to the first overflow. -/
def countAll (m : Match) : List Credit → Match × Except Overflow Unit
  | [] => (m, .ok ())
  | c :: cs =>
    match m.count c with
    | (m, .ok ()) => m.countAll cs
    | (m, .error o) => (m, .error o)

def perform (m : Match) : Effect → Match × Except Overflow Unit
  | .rename map => ({ m with map }, .ok ())
  | .openRound startedAt => ({ m with openRound := some startedAt }, .ok ())
  | .closeRound endedAt winner score =>
    ({ m with rounds := m.rounds ++ [⟨m.openRound, endedAt, winner, score⟩], openRound := none },
      .ok ())
  | .credit cs => m.countAll cs

inductive Verdict where
  | accepted
  | rejected (cause : Rejection)
  | overflowed (cause : Overflow)
  deriving DecidableEq

def apply (m : Match) (e : Event) : Match × Verdict :=
  if e.origin.id ≠ m.server.id then (m, .rejected (.wrongServer m.server.id e.origin.id))
  else match effect e with
    | .error cause => (m, .rejected cause)
    | .ok eff => match m.perform eff with
      | (m, .ok ()) => (m, .accepted)
      | (m, .error o) => (m, .overflowed o)

def replay (m : Match) : List Event → List (Match × Verdict)
  | [] => []
  | e :: es =>
    let (m, verdict) := m.apply e
    match verdict with
    | .overflowed _ => [(m, verdict)]
    | _ => (m, verdict) :: m.replay es

structure Sealed where
  id : MatchId
  server : Server
  map : String
  createdAt : Instant
  sealedAt : Instant
  rounds : List Round
  teams : List (Team × Tally)
  players : List (SteamId × Line)
  deriving DecidableEq

/-- Finishes a match; a round under way has no score and is left out. -/
def finish (m : Match) (sealedAt : Instant) : Sealed :=
  ⟨m.id, m.server, m.map, m.createdAt, sealedAt, m.rounds, m.teams.entries, m.players.entries⟩

namespace Sealed

def total (s : Sealed) (side : Score → Int) : Except Overflow Int :=
  s.rounds.foldlM (fun n r => int32.add n (side r.score)) 0

def redScore (s : Sealed) : Except Overflow Int := s.total Score.red

def bluScore (s : Sealed) : Except Overflow Int := s.total Score.blu

def team? (s : Sealed) (t : Team) : Option Tally :=
  (s.teams.find? (·.1 = t)).map (·.2)

def elapsed (s : Sealed) (now : Instant) : Span := now.since s.createdAt

end Sealed
end Match
end Moderation
