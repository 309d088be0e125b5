import Moderation.Notice.Webhook
import Moderation.Queue
/-!
The outbox: notices that wait to be sent, in a bounded queue. They are sent one at a time, in order;
one that cannot be delivered is given up.
-/
namespace Moderation.Notice

def NoticeError.ofRefusal : Refusal → NoticeError
  | .full => .queueFull
  | .closed => .closed

abbrev Outbox := Queue Notice

namespace Outbox

def enqueue (o : Outbox) (n : Notice) : Except NoticeError Outbox :=
  match Queue.offer o n with
  | .ok o => .ok o
  | .error r => .error (.ofRefusal r)

def post (o : Outbox) (n : Notice) : Outbox :=
  match enqueue o n with
  | .ok o => o
  | .error _ => o

end Outbox

structure Notifier where
  outbox : Outbox
  isRunning : Bool

namespace Notifier

def idle (capacity : Nat) : Notifier := ⟨Queue.ofCapacity capacity, false⟩

def start (s : Notifier) : Notifier := { s with isRunning := true }

def settle (s : Notifier) (deliver : Notice → Except NoticeError Unit) :
    List (Notice × Except NoticeError Unit) × Notifier :=
  if s.isRunning then
    (s.outbox.items.map fun n => (n, deliver n), { s with outbox := s.outbox.drained })
  else ([], s)

def stop (s : Notifier) : Notifier := ⟨s.outbox.close, false⟩

end Notifier
end Moderation.Notice
