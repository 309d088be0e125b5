import Mathlib.Data.List.Basic
import Moderation.Bus
/-!
Steps of a bus: subscriptions, publications, receipts and departures. What a step does to one
subscriber depends on that subscriber alone.
-/
namespace Moderation

inductive Bus.Op where
  | subscribe (name : String) (interest : Interest) (capacity : Nat)
  | publish (e : Event)
  | receive (i : Nat)
  | leave (i : Nat)

inductive Bus.Answer where
  | subscribed
  | refused (cause : BusError)
  | published (d : Delivery)
  | received (e : Option Event)
  | left

namespace Bus

def step (b : Bus) : Op → Answer × Bus
  | .subscribe name interest capacity =>
    match b.subscribe name interest capacity with
    | .ok b' => (.subscribed, b')
    | .error cause => (.refused cause, b)
  | .publish e => (.published (b.publish e).2, (b.publish e).1)
  | .receive i => (.received (b.receive i).1, (b.receive i).2)
  | .leave i => (.left, b.leave i)

def after (b : Bus) (ops : List Op) : Bus := ops.foldl (fun b op => (b.step op).2) b

def answers (b : Bus) : List Op → List Answer
  | [] => []
  | op :: ops => (b.step op).1 :: answers (b.step op).2 ops

def Answer.isSubscribed : Answer → Bool
  | .subscribed => true
  | _ => false

def wanted (interest : Interest) (ops : List Op) : List Event :=
  ops.filterMap fun
    | .publish e => if interest.wants e.kind then some e else none
    | _ => none

/-- The wanted event that a step offers to the subscriber at a place, and whether there is room for
it in the queue of that subscriber. -/
def offer? (b : Bus) (i : Nat) : Op → Option (Event × Bool)
  | .publish e => (b.subscribers[i]?).bind fun s =>
    if s.interest.wants e.kind then some (e, decide s.queue.HasRoom) else none
  | _ => none

def offers (b : Bus) (i : Nat) : List Op → List (Event × Bool)
  | [] => []
  | op :: ops => (b.offer? i op).toList ++ offers (b.step op).2 i ops

def accepted (offers : List (Event × Bool)) : List Event := (offers.filter (·.2)).map (·.1)

def receipt? (i : Nat) : Op × Answer → Option Event
  | (.receive j, .received e) => if j = i then e else none
  | _ => none

def receipts (i : Nat) (ops : List Op) (as : List Answer) : List Event :=
  (ops.zip as).filterMap (receipt? i)

/-- A step that concerns the subscriber at a place, on a bus where it is the only one. -/
def own? (i : Nat) : Op → Option Op
  | .subscribe _ _ _ => none
  | .publish e => some (.publish e)
  | .receive j => if j = i then some (.receive 0) else none
  | .leave j => if j = i then some (.leave 0) else none

def own (i : Nat) (ops : List Op) : List Op := ops.filterMap (own? i)

end Bus

namespace Subscriber
open Bus

def react (s : Subscriber) (i : Nat) : Op → Subscriber
  | .subscribe _ _ _ => s
  | .publish e => (s.offer e).1
  | .receive j =>
    if j = i then { s with queue := (s.queue.take?.map (·.2)).getD s.queue } else s
  | .leave j => if j = i then { s with queue := s.queue.close } else s

def taken? (s : Subscriber) (i : Nat) : Op → Option Event
  | .receive j => if j = i then s.queue.items.head? else none
  | _ => none

def offered? (s : Subscriber) : Op → Option (Event × Bool)
  | .publish e => if s.interest.wants e.kind then some (e, decide s.queue.HasRoom) else none
  | _ => none

theorem offer_of_hasRoom {s : Subscriber} {e : Event} (hw : s.interest.wants e.kind = true)
    (hr : s.queue.HasRoom) : ∃ q, q.items = s.queue.items ++ [e] ∧
      q.capacity = s.queue.capacity ∧ q.isOpen = true ∧
      s.offer e = ({ s with queue := q, delivered := s.delivered + 1 }, ⟨1, 0⟩) := by
  obtain ⟨q, hq⟩ := Queue.offer_of_hasRoom hr e
  obtain ⟨hitems, hcapacity, hopen⟩ := Queue.items_offer hq
  exact ⟨q, hitems, hcapacity, hopen, by simp [offer, hw, hq]⟩

theorem offer_of_not_hasRoom {s : Subscriber} {e : Event} (hw : s.interest.wants e.kind = true)
    (hr : ¬ s.queue.HasRoom) :
    s.offer e = ({ s with dropped := s.dropped + 1 }, ⟨0, 1⟩) := by
  obtain ⟨refusal, hrefused⟩ := Queue.offer_of_not_hasRoom hr e
  simp [offer, hw, hrefused]

theorem offer_of_not_wants {s : Subscriber} {e : Event}
    (hw : s.interest.wants e.kind = false) : s.offer e = (s, ⟨0, 0⟩) := by
  simp [offer, hw]

structure Reacts (s s' : Subscriber) (offered : Option (Event × Bool)) (taken : Option Event) :
    Prop where
  name : s'.name = s.name
  interest : s'.interest = s.interest
  capacity : s'.queue.capacity = s.queue.capacity
  items : s'.queue.isOpen = true →
    taken.toList ++ s'.queue.items = s.queue.items ++ accepted offered.toList
  delivered : s'.delivered = s.delivered + offered.toList.countP (·.2)
  dropped : s'.dropped = s.dropped + offered.toList.countP (!·.2)

theorem Reacts.refl (s : Subscriber) : Reacts s s none none :=
  ⟨rfl, rfl, rfl, fun _ => by simp [accepted], rfl, rfl⟩

theorem reacts (s : Subscriber) (i : Nat) (op : Op) :
    Reacts s (s.react i op) (s.offered? op) (s.taken? i op) := by
  cases op with
  | subscribe name interest capacity => exact .refl s
  | publish e =>
    cases hw : s.interest.wants e.kind with
    | false =>
      simp only [react, offered?, taken?, offer_of_not_wants hw, hw]
      exact .refl s
    | true =>
      by_cases hr : s.queue.HasRoom
      · obtain ⟨q, hitems, hcapacity, hopen, hoffer⟩ := offer_of_hasRoom hw hr
        simp only [react, offered?, taken?, hoffer, hw]
        exact ⟨rfl, rfl, hcapacity, fun _ => by simp [accepted, hr, hitems], by simp [hr],
          by simp [hr]⟩
      · simp only [react, offered?, taken?, offer_of_not_hasRoom hw hr, hw]
        exact ⟨rfl, rfl, rfl, fun _ => by simp [accepted, hr], by simp [hr], by simp [hr]⟩
  | receive j =>
    by_cases hj : j = i
    · simp only [react, taken?, offered?, if_pos hj]
      cases ht : s.queue.take? with
      | none =>
        have hitems := Queue.items_of_take?_eq_none ht
        simp only [hitems, Option.map_none, Option.getD_none, List.head?_nil]
        exact .refl s
      | some taken =>
        obtain ⟨e, q⟩ := taken
        obtain ⟨hitems, hcapacity, -⟩ := Queue.items_take? ht
        simp only [hitems, Option.map_some, Option.getD_some, List.head?_cons]
        exact ⟨rfl, rfl, hcapacity, fun _ => by simp [accepted, hitems], rfl, rfl⟩
    · simp only [react, taken?, offered?, if_neg hj]
      exact .refl s
  | leave j =>
    by_cases hj : j = i
    · simp only [react, taken?, offered?, if_pos hj]
      exact ⟨rfl, rfl, rfl, nofun, rfl, rfl⟩
    · simp only [react, taken?, offered?, if_neg hj]
      exact .refl s

theorem isOpen_react (s : Subscriber) (i : Nat) (op : Op) :
    (s.react i op).queue.isOpen = true ↔ s.queue.isOpen = true ∧ op ≠ .leave i := by
  cases op with
  | subscribe name interest capacity => simp [react]
  | publish e =>
    cases hw : s.interest.wants e.kind with
    | false => simp [react, offer_of_not_wants hw]
    | true =>
      by_cases hr : s.queue.HasRoom
      · obtain ⟨q, -, -, hopen, hoffer⟩ := offer_of_hasRoom hw hr
        simp [react, hoffer, hopen, hr.1]
      · simp [react, offer_of_not_hasRoom hw hr]
  | receive j =>
    by_cases hj : j = i
    · cases ht : s.queue.take? with
      | none => simp [react, hj, ht]
      | some taken =>
        obtain ⟨e, q⟩ := taken
        obtain ⟨-, -, hopen⟩ := Queue.items_take? ht
        simp [react, hj, ht, hopen]
    · simp [react, hj]
  | leave j =>
    by_cases hj : j = i
    · simp [react, hj, Queue.close]
    · simp [react, hj]

end Subscriber

namespace Bus

theorem after_cons (b : Bus) (op : Op) (ops : List Op) :
    b.after (op :: ops) = (b.step op).2.after ops := rfl

theorem after_append (b : Bus) (xs ys : List Op) : b.after (xs ++ ys) = (b.after xs).after ys :=
  List.foldl_append ..

theorem answers_append (b : Bus) (xs ys : List Op) :
    b.answers (xs ++ ys) = b.answers xs ++ (b.after xs).answers ys := by
  induction xs generalizing b with
  | nil => rfl
  | cons x xs ih => simp [answers, after_cons, ih]

theorem length_answers (b : Bus) (ops : List Op) : (b.answers ops).length = ops.length := by
  induction ops generalizing b with
  | nil => rfl
  | cons op ops ih => simp [answers, ih]

theorem receipts_cons (i : Nat) (op : Op) (ops : List Op) (a : Answer) (as : List Answer) :
    receipts i (op :: ops) (a :: as) = (receipt? i (op, a)).toList ++ receipts i ops as := by
  simp only [receipts, List.zip_cons_cons, List.filterMap_cons]
  cases receipt? i (op, a) <;> rfl

theorem accepted_append (xs ys : List (Event × Bool)) :
    accepted (xs ++ ys) = accepted xs ++ accepted ys := by
  simp [accepted]

/-- A subscription that is granted adds a subscriber at the end. -/
theorem subscribe_eq_ok {b b' : Bus} {name : String} {interest : Interest} {capacity : Nat}
    (h : b.subscribe name interest capacity = .ok b') :
    capacity ≠ 0 ∧ b' = ⟨b.subscribers ++ [⟨name, interest, .empty capacity, 0, 0⟩]⟩ := by
  unfold subscribe at h
  split at h
  · cases h
  next hc =>
    split at h
    · cases h
    · exact ⟨hc, (Except.ok.inj h).symm⟩

/-- A step does to each subscriber what concerns it. -/
theorem step_at {b : Bus} {i : Nat} {s : Subscriber} (h : b.subscribers[i]? = some s) (op : Op) :
    (b.step op).2.subscribers[i]? = some (s.react i op) ∧
      b.offer? i op = s.offered? op ∧ receipt? i (op, (b.step op).1) = s.taken? i op := by
  cases op with
  | subscribe name interest capacity =>
    cases hb : b.subscribe name interest capacity with
    | error cause =>
      simp only [step, hb]
      exact ⟨h, rfl, rfl⟩
    | ok b' =>
      obtain ⟨-, rfl⟩ := subscribe_eq_ok hb
      obtain ⟨hi, -⟩ := List.getElem?_eq_some_iff.1 h
      simp only [step, hb, List.getElem?_append_left hi]
      exact ⟨h, rfl, rfl⟩
  | publish e =>
    simp [step, publish, h, offer?, receipt?, Subscriber.react, Subscriber.offered?,
      Subscriber.taken?]
  | receive j =>
    by_cases hj : j = i
    · subst hj
      cases ht : s.queue.take? with
      | none =>
        have hitems := Queue.items_of_take?_eq_none ht
        simp [step, receive, h, ht, hitems, offer?, receipt?, Subscriber.react,
          Subscriber.offered?, Subscriber.taken?]
      | some taken =>
        obtain ⟨hitems, -, -⟩ := Queue.items_take? ht
        simp [step, receive, h, ht, hitems, offer?, receipt?, modifyQueue, Subscriber.react,
          Subscriber.offered?, Subscriber.taken?]
    · have hget : (b.receive j).2.subscribers[i]? = some s := by
        unfold receive
        split <;> simp [modifyQueue, hj, h]
      simp [step, hget, offer?, receipt?, hj, Subscriber.react, Subscriber.offered?,
        Subscriber.taken?]
  | leave j =>
    by_cases hj : j = i
    · simp [step, leave, modifyQueue, h, hj, offer?, receipt?, Subscriber.react,
        Subscriber.offered?, Subscriber.taken?]
    · simp [step, leave, modifyQueue, h, hj, offer?, receipt?, Subscriber.react,
        Subscriber.offered?, Subscriber.taken?]

end Bus
end Moderation
