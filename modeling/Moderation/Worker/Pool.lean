import Moderation.Queue
/-!
A pool of workers with one bounded queue of jobs. Jobs leave the queue in the order in which they
came, each to the worker whose turn it is. A job that must not be lost runs on its own when the
queue is full.
-/
namespace Moderation.Worker

/-- What carries out a job: a worker, or the job has been set going on its own. -/
inductive Hand where
  | worker (n : Nat)
  | alone (n : Nat)
  deriving DecidableEq

structure Pool (α : Type) where
  queue : Queue α
  /-- The workers without a job, in the order of their turns. -/
  idle : List Nat
  /-- The jobs that have left the queue, with the hands that carry them out. -/
  running : List (Hand × α)
  /-- Number of jobs that were set going on their own. -/
  spawned : Nat
  /-- Whether workers go home instead of waiting for a job. -/
  isStopping : Bool

inductive PoolError where
  | full (job : String)
  | closed (job : String)
  deriving DecidableEq

def PoolError.message : PoolError → String
  | .full job => "worker queue full, dropped job '" ++ job ++ "'"
  | .closed job => "worker pool closed, dropped job '" ++ job ++ "'"

def PoolError.ofRefusal (job : String) : Refusal → PoolError
  | .full => .full job
  | .closed => .closed job

namespace Pool
variable {α : Type}

/-- A pool in which every worker waits. Without workers its queue is closed. -/
def start (workers capacity : Nat) : Pool α :=
  let queue := Queue.ofCapacity capacity
  ⟨if workers = 0 then queue.close else queue, List.range workers, [], 0, false⟩

def next? (p : Pool α) : Option Hand := p.idle.head?.map .worker

def submit (p : Pool α) (job : α) : Except Refusal (Pool α) :=
  match p.queue.offer job with
  | .ok queue => .ok { p with queue }
  | .error r => .error r

def submitOrSpawn (p : Pool α) (job : α) : Except Refusal (Pool α) :=
  match p.submit job with
  | .error .full => .ok { p with
      running := p.running ++ [(.alone p.spawned, job)], spawned := p.spawned + 1 }
  | answer => answer

/-- Puts a job into the pool; one that it does not take is lost. Only a vital job is set going on its
own if the queue is full. -/
def put (p : Pool α) (isVital : Bool) (job : α) : Pool α :=
  match if isVital then p.submitOrSpawn job else p.submit job with
  | .ok p => p
  | .error _ => p

/-- The hands that may begin after jobs have been put into a pool: the worker whose turn it is, and
those set going since. -/
def called (before after : Pool α) : List Hand :=
  after.next?.toList ++ ((List.range after.spawned).drop before.spawned).map .alone

def take? (p : Pool α) : Option (Hand × α × Pool α) :=
  match p.idle, p.queue.take? with
  | n :: idle, some (job, queue) =>
    some (.worker n, job, { p with queue, idle, running := p.running ++ [(.worker n, job)] })
  | _, _ => none

def job? (p : Pool α) (h : Hand) : Option α := (p.running.find? (·.1 = h)).map (·.2)

def update (p : Pool α) (h : Hand) (job : α) : Pool α :=
  { p with running := p.running.map fun r => if r.1 = h then (h, job) else r }

def isAlone : Hand → Bool
  | .alone _ => true
  | .worker _ => false

def isStaffed (p : Pool α) : Bool := !p.idle.isEmpty || p.running.any fun r => !isAlone r.1

def settled (p : Pool α) : Pool α :=
  if p.isStaffed then p else { p with queue := p.queue.close }

def lose (p : Pool α) (h : Hand) : Pool α :=
  settled { p with running := p.running.filter (·.1 ≠ h) }

/-- The job of a hand is done. A worker waits again, behind all that do. -/
def finish (p : Pool α) (h : Hand) : Pool α :=
  match h with
  | .worker n =>
    if p.isStopping then p.lose h
    else { p with running := p.running.filter (·.1 ≠ h), idle := p.idle ++ [n] }
  | .alone _ => p.lose h

def stop (p : Pool α) : Pool α := settled { p with idle := [], isStopping := true }

end Pool
end Moderation.Worker
