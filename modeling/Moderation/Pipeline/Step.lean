import Moderation.History
import Moderation.Pipeline.Basic
/-!
The tasks of the pipeline and their steps. Servers ingest one batch in a step, consumers take one
event, and hands go on with one job. A step wakes the tasks that it gives something to do.
-/
namespace Moderation.Pipeline
open Ingest Schedule Time Worker

inductive Task where
  | ingest (server : Int)
  | consume (c : Consumer)
  | carry (h : Hand)
  deriving DecidableEq

def Task.allowance : Task → Nat
  | carry h => Worker.allowance h
  | _ => 128

namespace State

def isWaiting (s : State) (c : Consumer) : Bool := s.calls.any (·.1 = c)

def place (s : State) (c : Consumer) : Nat := s.consumers.idxOf c

/-- The consumers that events give something to do, in the order in which that happens. -/
def called (s : State) (es : List Event) : List Task :=
  es.flatMap fun e =>
    (s.consumers.filter fun c => c.interest.wants e.kind && !s.isWaiting c).map .consume

def ingest? (s : State) (now : Instant) (server : Int) : Option (Step Task State) :=
  (s.intake.ingestNext? (.ofInstant now) server).map fun (entries, intake) =>
    ⟨{ s with intake }, s.called (entries.filterMap Entry.event?), none⟩

def placeAll (s : State) (jobs : List Job) : Step Task State :=
  let pool := jobs.foldl (fun p j => p.put j.isVital (.ofJob j)) s.pool
  ⟨{ s with pool }, (Pool.called s.pool pool).map .carry, none⟩

def warn (s : State) (now : Instant) (e : Event) : Step Task State :=
  let (reaction, engine) := s.engine.handle e now now
  { s with engine }.placeAll ((reaction.map Warning.Reaction.jobs).getD [])

/-- The summarizer handles an event. After an overflow it is gone. -/
def summarize (s : State) (now : Instant) (e : Event) : Step Task State :=
  match s.book.handle ⟨s.created + 1⟩ now e with
  | .error _ => ⟨{ s with intake.bus := s.intake.bus.leave (s.place .summarizer) }, [], none⟩
  | .ok (t, book) =>
    let s := { s with book }
    match t with
    | .created _ => ⟨{ s with created := s.created + 1 }, [], none⟩
    | .sealed m => s.placeAll [.saveMatch m]
    | _ => ⟨s, [], none⟩

def write (s : State) (c : Call) (w : Store.Write) : State :=
  { s with archive := (s.archive.write c w).2 }

def record (s : State) (clock : Span) (c : Consumer) (e : Event) : Step Task State :=
  match History.write? e with
  | none => ⟨s, [], none⟩
  | some w =>
    let call := s.archive.begin clock
    if call.isOver clock then ⟨s.write call w, [], none⟩
    else ⟨{ s with calls := s.calls ++ [(c, call, w)] }, [], some (call.rest clock)⟩

def handle (s : State) (now : Instant) (clock : Span) (c : Consumer) (e : Event) :
    Step Task State :=
  match c with
  | .engine => s.warn now e
  | .summarizer => s.summarize now e
  | c => s.record clock c e

/-- A consumer takes the next event; a writer finishes its call first. -/
def consume? (s : State) (now : Instant) (clock : Span) (c : Consumer) :
    Option (Step Task State) :=
  match s.calls.find? (·.1 = c) with
  | some (_, call, w) =>
    if call.isOver clock then
      some ⟨{ s.write call w with calls := s.calls.filter (·.1 ≠ c) }, [], none⟩
    else none
  | none =>
    match s.intake.bus.receive (s.place c) with
    | (none, _) => none
    | (some e, bus) => some ({ s with intake.bus := bus }.handle now clock c e)

def carry? (s : State) (clock : Span) (h : Hand) : Option (Step Task State) :=
  (s.pool.step? Errand.labour clock h s.archive).map fun step =>
    ⟨{ s with pool := step.state.1, archive := step.state.2 }, step.woken.map .carry, step.sleep⟩

def step? (now : Instant) (clock : Span) (t : Task) (s : State) : Option (Step Task State) :=
  match t with
  | .ingest server => s.ingest? now server
  | .consume c => s.consume? now clock c
  | .carry h => s.carry? clock h

end State

def tasks (now : Instant) : Tasks Task State := ⟨Task.allowance, State.step? now⟩

end Moderation.Pipeline
