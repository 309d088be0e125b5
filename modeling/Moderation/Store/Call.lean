import Moderation.Store.Basic
/-!
Calls to the store that are under way. How long a call takes is settled when it begins, whether it
fails when it ends; main statement: if nothing changes in between, its answer is that of a call
which is carried out at once.
-/
namespace Moderation
open Time

/-- The time on the clock at which a call ends, and whether the store has answered by then. -/
structure Call where
  due : Span
  isInTime : Bool

namespace Call

def isOver (c : Call) (clock : Span) : Bool := c.due ≤ clock

def rest (c : Call) (clock : Span) : Span := ⟨c.due.nanos - clock.nanos⟩

end Call

namespace Fault

def begin (f : Fault) (limit clock : Span) : Call :=
  ⟨⟨clock.nanos + min f.delay.nanos limit.nanos⟩, f.delay ≤ limit⟩

def answer {α : Type} (f : Fault) (limit : Span) (c : Call) (run : Except StoreError α) :
    Except StoreError α :=
  if !c.isInTime then .error (.timeout limit)
  else if f.failing then .error unavailable
  else run

theorem answer_begin {α : Type} (f : Fault) (limit clock : Span) (run : Except StoreError α) :
    f.answer limit (f.begin limit clock) run = f.call limit run := by
  by_cases h : limit < f.delay
  · have h' : ¬ f.delay ≤ limit := fun l => Span.not_lt.2 l h
    simp [answer, begin, call, h, h']
  · simp [answer, begin, call, h, Span.not_lt.1 h]

end Fault

structure Archive where
  store : Store
  fault : Fault
  limit : Span

namespace Archive

def begin (a : Archive) (clock : Span) : Call := a.fault.begin a.limit clock

def call {α : Type} (a : Archive) (read : Store → α) : Except StoreError α :=
  a.fault.call a.limit (.ok (read a.store))

def write (a : Archive) (c : Call) (w : Store.Write) : Except StoreError Unit × Archive :=
  match a.fault.answer a.limit c (a.store.write w) with
  | .ok store => (.ok (), { a with store })
  | .error e => (.error e, a)

end Archive
end Moderation
