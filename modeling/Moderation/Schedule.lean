import Moderation.Time.Instant
/-!
Tasks that share one processor. Tasks that can go on stand in line; the first one makes steps until
it has to wait, or until its allowance is used up, and then the next one has its turn. When nobody
can go on, the clock jumps to the next alarm.
-/
namespace Moderation.Schedule
open Time

/-- What a step did: the state after it, the tasks it woke, and how long its own task sleeps. -/
structure Step (τ σ : Type) where
  state : σ
  woken : List τ
  sleep : Option Span

/-- The tasks on states of type `σ`: how many steps one may make in a row, and its next step at a
time of the clock, if it has not to wait. -/
structure Tasks (τ σ : Type) where
  allowance : τ → Nat
  step? : Span → τ → σ → Option (Step τ σ)

/-- The time, the tasks that can go on, and the alarms in the order in which they were set. -/
structure Agenda (τ : Type) where
  clock : Span
  ready : List τ
  alarms : List (Span × τ)

namespace Agenda
variable {τ σ : Type} [DecidableEq τ]

def empty : Agenda τ := ⟨.zero, [], []⟩

/-- Puts a task at the end of the line, unless it stands there. -/
def wake (a : Agenda τ) (t : τ) : Agenda τ :=
  if t ∈ a.ready then a else { a with ready := a.ready ++ [t] }

def wakeAll (a : Agenda τ) (ts : List τ) : Agenda τ := ts.foldl wake a

def sleep (a : Agenda τ) (t : τ) (d : Span) : Agenda τ :=
  { a with alarms := a.alarms ++ [(⟨a.clock.nanos + d.nanos⟩, t)] }

def next? (a : Agenda τ) : Option Span :=
  a.alarms.foldl (fun best x => match best with
    | some d => if x.1 < d then some x.1 else some d
    | none => some x.1) none

/-- Puts the clock to a time and wakes the tasks whose alarms are due. -/
def advance (a : Agenda τ) (now : Span) : Agenda τ :=
  let due := a.alarms.filter (·.1 ≤ now)
  wakeAll { a with clock := now, alarms := a.alarms.filter fun x => !decide (x.1 ≤ now) }
    (due.map (·.2))

/-- A task makes steps; one whose allowance is used up stands in line again. -/
def turn (ts : Tasks τ σ) (t : τ) : Nat → Agenda τ → σ → Agenda τ × σ
  | 0, a, s => (a.wake t, s)
  | n + 1, a, s =>
    match ts.step? a.clock t s with
    | none => (a, s)
    | some step =>
      let a := a.wakeAll step.woken
      match step.sleep with
      | some d => (a.sleep t d, step.state)
      | none => turn ts t n a step.state

/-- Runs tasks until the clock has reached a time; `fuel` bounds the number of turns. -/
def run (ts : Tasks τ σ) (limit : Span) : Nat → Agenda τ → σ → Agenda τ × σ
  | 0, a, s => (a, s)
  | fuel + 1, a, s =>
    match a.ready with
    | t :: ready =>
      let (a, s) := turn ts t (ts.allowance t) { a with ready } s
      run ts limit fuel a s
    | [] =>
      match a.next? with
      | some d =>
        if d < limit then run ts limit fuel (a.advance d) s else (a.advance limit, s)
      | none => (a.advance limit, s)

end Agenda
end Moderation.Schedule
