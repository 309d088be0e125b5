import Moderation.Pipeline.Step
/-!
The pipeline at work: batches are submitted at any time, and the tasks go on while the pipeline is
left alone. A shutdown closes every queue; calls that are under way may still end.
-/
namespace Moderation
open Ingest Schedule Time Worker

structure Pipeline where
  state : Pipeline.State
  agenda : Agenda Pipeline.Task
  grace : Span
  isStopped : Bool

namespace Pipeline

/-- Starts the pipeline. The workers come first in line, then the consumers. -/
def start (s : Settings) (store : Store) (fault : Fault) (canOpen : String → Bool) :
    Except StartupError Pipeline := do
  let state ← State.start s store fault canOpen
  let ready := state.pool.idle.map (fun n => .carry (.worker n)) ++ state.consumers.map .consume
  return ⟨state, ⟨.zero, ready, []⟩, .ofSeconds s.shutdownGraceSeconds, false⟩

def submit (p : Pipeline) (b : Batch) : Except IngestError Unit × Pipeline :=
  let (answer, router) := p.state.intake.router.submit b
  (answer, { p with
    state.intake.router := router, agenda := p.agenda.wake (.ingest b.server.id) })

/-- More than the number of turns that tasks take until they have nothing to do. -/
def turns (p : Pipeline) : Nat :=
  let s := p.state
  let lines := Number.total (s.intake.router.routes.values.map fun r =>
    Number.total (r.queue.items.map fun b => b.lines.length + 1))
  let events := Number.total (s.intake.bus.subscribers.map (·.queue.items.length))
  100 * (1 + p.agenda.ready.length + p.agenda.alarms.length + lines + events +
    s.pool.queue.items.length + s.pool.running.length)

def run (p : Pipeline) (now : Instant) (d : Span) : Pipeline :=
  let (agenda, state) :=
    p.agenda.run (tasks now) ⟨p.agenda.clock.nanos + d.nanos⟩ p.turns p.state
  { p with agenda, state }

def settlingTime : Span := .ofSeconds 600

def settle (p : Pipeline) (now : Instant) : Pipeline := p.run now settlingTime

def State.dismiss (s : State) (c : Consumer) : State :=
  { s with intake.bus := s.intake.bus.leave (s.place c) }

/-- Stops all tasks, and waits for those that cannot stop at once as long as the grace lasts. -/
def shutdown (p : Pipeline) (now : Instant) : Pipeline :=
  let s := p.state.consumers.foldl State.dismiss p.state
  let s := { s with intake.router := s.intake.router.cancel, pool := s.pool.stop }
  { p with state := s, isStopped := true }.run now p.grace

end Pipeline
end Moderation
