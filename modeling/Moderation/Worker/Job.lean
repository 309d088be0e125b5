import Moderation.Ban.Dispatch
import Moderation.Match.Summary
import Moderation.Notice.Outbox
import Moderation.Worker.Pool
/-!
The jobs of workers. A job calls one service after the other and waits for each answer; a match
that has been saved is then announced. Only a job that acts on a player must not be lost.
-/
namespace Moderation.Worker
open Notice Number Time

inductive Job where
  | saveMatch (m : Match.Sealed)
  | countTrigger (filterId : Int)
  | tell (server : Server) (command : Rcon.Command)
  | act (r : Ban.Request)

inductive Stage where
  | writing (w : Store.Write)
  | telling (server : Server) (command : Rcon.Command)
  | done

def Stage.ofRest : Ban.Rest → Stage
  | .telling server command => .telling server command
  | .done _ => .done

namespace Job

def isVital : Job → Bool
  | act _ => true
  | _ => false

def start : Job → Stage
  | saveMatch m => .writing (.saveMatch m)
  | countTrigger id => .writing (.countTrigger id)
  | tell server command => .telling server command
  | act r => match r.start with
    | .storing record => .writing (.applyBan record)
    | .rest rest => .ofRest rest

def written : Job → Except StoreError Unit → Stage
  | act r, answer => .ofRest (r.stored answer)
  | _, _ => .done

def announced? : Job → Except StoreError Unit → Option Match.Sealed
  | saveMatch m, .ok () => some m
  | _, _ => none

end Job

def Stage.finish (s : Services) : Stage → Services
  | .telling server command => (s.tell server command).2
  | _ => s

def Job.carryOut (s : Services) (j : Job) : Option Match.Sealed × Services :=
  match j.start with
  | .writing w =>
    let (answer, s) := s.write w
    (j.announced? answer, (j.written answer).finish s)
  | stage => (none, stage.finish s)

def Pool.place (p : Pool Job) (j : Job) : Pool Job := p.put j.isVital j

def announcement (externalUrl : String) (now : Instant) (m : Match.Sealed) :
    Except Overflow Notice := do
  return ⟨.matchLog, ← m.embed now now externalUrl⟩

structure Office where
  services : Services
  pool : Pool Job
  outgoing : Outbox
  externalUrl : String

namespace Office

def start (services : Services) (workers poolCapacity outgoingCapacity : Nat)
    (externalUrl : String) : Office :=
  ⟨services, .start workers poolCapacity, Queue.ofCapacity outgoingCapacity, externalUrl⟩

def place (o : Office) (j : Job) : Office := { o with pool := o.pool.place j }

def placeAll (o : Office) (js : List Job) : Office := js.foldl place o

def post (o : Office) (n : Notice) : Office := { o with outgoing := o.outgoing.post n }

/-- A hand carries out its job. A hand whose announcement overflows is lost. -/
def carryOut (o : Office) (now : Instant) (h : Hand) (j : Job) : Office :=
  let (saved, services) := j.carryOut o.services
  let o := { o with services }
  match saved.map (announcement o.externalUrl now) with
  | none => { o with pool := o.pool.finish h }
  | some (.ok n) => { o.post n with pool := o.pool.finish h }
  | some (.error _) => { o with pool := o.pool.lose h }

def drain (now : Instant) : Nat → Office → Office
  | 0, o => o
  | n + 1, o => match o.pool.take? with
    | some (h, j, pool) => drain now n ({ o with pool }.carryOut now h j)
    | none => o

/-- Carries out all jobs: those of the queue in their order, then those on their own. -/
def settle (o : Office) (now : Instant) : Office :=
  let o := drain now o.pool.queue.items.length o
  o.pool.running.foldl (fun o (h, j) => o.carryOut now h j) o

end Office
end Moderation.Worker
