import Moderation.Store.Call
import Moderation.Worker.Job
import Moderation.Worker.Shift
/-!
Jobs that take their time: each call to the store lasts as long as the store is slow, and other
tasks go on meanwhile. To tell a server something, its console is looked up in the store; consoles
themselves are out of reach here, so nothing else comes of it.
-/
namespace Moderation.Worker
open Time

/-- A job, its stage, and the call that the stage waits for, once that has begun. -/
structure Errand where
  job : Job
  stage : Stage
  call : Option Call

namespace Errand

def ofJob (j : Job) : Errand := ⟨j, j.start, none⟩

/-- Begins the call of a stage, and goes on with it if it is over at once. -/
def await (e : Errand) (a : Archive) (clock : Span) (next : Call → Progress Errand Archive) :
    Progress Errand Archive :=
  let c := a.begin clock
  if c.isOver clock then next c else .waits { e with call := some c } a (some (c.rest clock))

def goOn (e : Errand) (a : Archive) (clock : Span) (c : Call) : Progress Errand Archive :=
  match e.stage with
  | .writing w =>
    let (answer, a) := a.write c w
    match e.job.written answer with
    | .telling server command =>
      await ⟨e.job, .telling server command, none⟩ a clock fun _ => .done a
    | _ => .done a
  | _ => .done a

def labour : Labour Errand Archive := fun clock e a =>
  match e.call, e.stage with
  | some c, _ => if c.isOver clock then some (e.goOn a clock c) else none
  | none, .done => some (.done a)
  | none, _ => some (e.await a clock (e.goOn a clock))

end Errand
end Moderation.Worker
