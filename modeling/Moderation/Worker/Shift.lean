import Moderation.Schedule
import Moderation.Worker.Pool
/-!
Pools at work. A job goes on until it is done or has to wait for something outside the pool; a
worker that takes a job passes the turn on before it begins.
-/
namespace Moderation.Worker
open Schedule Time

/-- How far a job has come: it is done, or it waits in a new state, for some time or until its hand
is woken. -/
inductive Progress (α σ : Type) where
  | done (world : σ)
  | waits (job : α) (world : σ) (sleep : Option Span)

/-- How jobs go on at a time of the clock; a job that has to wait longer does not. -/
abbrev Labour (α σ : Type) := Span → α → σ → Option (Progress α σ)

namespace Pool
variable {α σ : Type}

def proceed (p : Pool α) (h : Hand) (woken : List Hand) :
    Progress α σ → Step Hand (Pool α × σ)
  | .done world => ⟨(p.finish h, world), woken, none⟩
  | .waits job world sleep => ⟨(p.update h job, world), woken, sleep⟩

def step? (labour : Labour α σ) (clock : Span) (h : Hand) (p : Pool α) (world : σ) :
    Option (Step Hand (Pool α × σ)) :=
  match p.job? h with
  | some job => (labour clock job world).map (p.proceed h [])
  | none =>
    if p.next? = some h then do
      let (_, job, p) ← p.take?
      match labour clock job world with
      | none => return ⟨(p, world), p.next?.toList, none⟩
      | some g => return p.proceed h p.next?.toList g
    else none

end Pool

def allowance : Hand → Nat
  | .worker _ => 64
  | .alone _ => 128

structure Shift (α σ : Type) where
  pool : Pool α
  agenda : Agenda Hand
  world : σ

namespace Shift
variable {α σ : Type}

def start (workers capacity : Nat) (world : σ) : Shift α σ :=
  ⟨.start workers capacity, { Agenda.empty with ready := (List.range workers).map .worker }, world⟩

def withPool (s : Shift α σ) (pool : Pool α) : Shift α σ :=
  { s with pool, agenda := s.agenda.wakeAll (Pool.called s.pool pool) }

def submit (s : Shift α σ) (job : α) : Except Refusal (Shift α σ) :=
  (s.pool.submit job).map s.withPool

def submitOrSpawn (s : Shift α σ) (job : α) : Except Refusal (Shift α σ) :=
  (s.pool.submitOrSpawn job).map s.withPool

def wake (s : Shift α σ) (f : α → Bool) : Shift α σ :=
  { s with agenda := s.agenda.wakeAll ((s.pool.running.filter (f ·.2)).map (·.1)) }

def tasks (labour : Labour α σ) : Tasks Hand (Pool α × σ) where
  allowance := allowance
  step? clock h s := s.1.step? labour clock h s.2

def settle (labour : Labour α σ) (s : Shift α σ) : Shift α σ :=
  let fuel := 2 * (s.agenda.ready.length + s.pool.queue.items.length + s.pool.running.length) + 1
  let (agenda, pool, world) := s.agenda.run (tasks labour) .zero fuel (s.pool, s.world)
  ⟨pool, agenda, world⟩

def stop (s : Shift α σ) : Shift α σ := { s with pool := s.pool.stop }

end Shift
end Moderation.Worker
