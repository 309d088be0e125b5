import Moderation.Event.Basic
import Moderation.Queue
/-!
The event bus. A subscriber names the kinds of events it wants and has a queue of its own; a
published event is offered to every subscriber that wants it, and one whose queue is full or closed
goes without it. Both outcomes are counted for each subscriber.
-/
namespace Moderation

inductive Interest where
  | any
  | kinds (ks : List EventKind)

namespace Interest

def wants : Interest → EventKind → Bool
  | any, _ => true
  | kinds ks, k => ks.contains k

def overlaps : Interest → Interest → Bool
  | any, _ => true
  | _, any => true
  | kinds ks, kinds ls => ks.any ls.contains

end Interest

structure Subscriber where
  name : String
  interest : Interest
  queue : Queue Event
  delivered : Nat
  dropped : Nat

/-- An outcome of publishing: in how many queues the event was put and how many refused it. -/
structure Delivery where
  delivered : Nat
  dropped : Nat
  deriving DecidableEq

instance : Add Delivery := ⟨fun a b => ⟨a.delivered + b.delivered, a.dropped + b.dropped⟩⟩

def Subscriber.offer (e : Event) (s : Subscriber) : Subscriber × Delivery :=
  if s.interest.wants e.kind then
    match s.queue.offer e with
    | .ok q => ({ s with queue := q, delivered := s.delivered + 1 }, ⟨1, 0⟩)
    | .error _ => ({ s with dropped := s.dropped + 1 }, ⟨0, 1⟩)
  else (s, ⟨0, 0⟩)

inductive BusError where
  | duplicateSubscription (name : String)
  | zeroCapacity
  deriving DecidableEq

def BusError.message : BusError → String
  | .duplicateSubscription name =>
    "subscriber '" ++ name ++ "' is already registered for an overlapping interest"
  | .zeroCapacity => "queue capacity must be greater than zero"

/-- The subscribers in the order of their registration. -/
structure Bus where
  subscribers : List Subscriber

namespace Bus

def empty : Bus := ⟨[]⟩

def subscribe (b : Bus) (name : String) (interest : Interest) (capacity : Nat) :
    Except BusError Bus :=
  if capacity = 0 then .error .zeroCapacity
  else if b.subscribers.any fun s => s.name = name && s.interest.overlaps interest then
    .error (.duplicateSubscription name)
  else .ok ⟨b.subscribers ++ [⟨name, interest, .empty capacity, 0, 0⟩]⟩

def publish (b : Bus) (e : Event) : Bus × Delivery :=
  let offers := b.subscribers.map (Subscriber.offer e)
  (⟨offers.map (·.1)⟩, offers.foldl (fun d o => d + o.2) ⟨0, 0⟩)

def publishAll (b : Bus) (es : List Event) : Bus := es.foldl (fun b e => (b.publish e).1) b

def modifyQueue (b : Bus) (i : Nat) (f : Queue Event → Queue Event) : Bus :=
  ⟨b.subscribers.modify i fun s => { s with queue := f s.queue }⟩

def receive (b : Bus) (i : Nat) : Option Event × Bus :=
  match (b.subscribers[i]?).bind (·.queue.take?) with
  | some (e, q) => (some e, b.modifyQueue i fun _ => q)
  | none => (none, b)

/-- The subscriber at a place goes away; its registration stays. -/
def leave (b : Bus) (i : Nat) : Bus := b.modifyQueue i Queue.close

def drain (b : Bus) (i : Nat) : List Event × Bus :=
  (((b.subscribers[i]?).map (·.queue.items)).getD [], b.modifyQueue i Queue.drained)

end Bus
end Moderation
