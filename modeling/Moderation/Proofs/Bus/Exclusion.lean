import Moderation.Proofs.Bus.Delivery
/-!
Subscribers of one name. Whatever is done with a bus, no two of them want the same kind of event, so
an event reaches at most one of them; a subscription that would change that is refused, and leaves
the bus as it was.
-/
namespace Moderation

namespace Interest

/-- One of two interests is in everything, or they share a kind. -/
def Meets (a b : Interest) : Prop :=
  a = any ∨ b = any ∨ ∃ k, a.wants k = true ∧ b.wants k = true

theorem overlaps_iff {a b : Interest} : a.overlaps b = true ↔ a.Meets b := by
  cases a with
  | any => simp [overlaps, Meets]
  | kinds ks =>
    cases b with
    | any => simp [overlaps, Meets]
    | kinds ls => simp [overlaps, Meets, wants]

end Interest

namespace Bus
variable {b b' : Bus} {name : String} {interest : Interest} {capacity : Nat}

/-- At no two places are there subscribers of one name that want the same kind. -/
def Exclusive (b : Bus) : Prop :=
  ∀ (i j : Nat) (s t : Subscriber), b.subscribers[i]? = some s → b.subscribers[j]? = some t →
    s.name = t.name → ∀ k, s.interest.wants k = true → t.interest.wants k = true → i = j

def Holds (b : Bus) (name : String) (interest : Interest) : Prop :=
  ∃ s ∈ b.subscribers, s.name = name ∧ s.interest.Meets interest

theorem holds_iff :
    (b.subscribers.any fun s => s.name = name && s.interest.overlaps interest) = true ↔
      b.Holds name interest := by
  simp [Holds, Interest.overlaps_iff]

/-- The three ways in which a subscription can end. -/
theorem subscribe_cases (b : Bus) (name : String) (interest : Interest) (capacity : Nat) :
    (capacity = 0 ∧ b.subscribe name interest capacity = .error .zeroCapacity) ∨
    (capacity ≠ 0 ∧ b.Holds name interest ∧
      b.subscribe name interest capacity = .error (.duplicateSubscription name)) ∨
    (capacity ≠ 0 ∧ ¬ b.Holds name interest ∧ b.subscribe name interest capacity =
      .ok ⟨b.subscribers ++ [⟨name, interest, .empty capacity, 0, 0⟩]⟩) := by
  by_cases hc : capacity = 0
  · exact .inl ⟨hc, by simp [subscribe, hc]⟩
  · by_cases hh : b.Holds name interest
    · exact .inr (.inl ⟨hc, hh, by rw [subscribe, if_neg hc, if_pos (holds_iff.2 hh)]⟩)
    · exact .inr (.inr ⟨hc, hh, by rw [subscribe, if_neg hc, if_neg (mt holds_iff.1 hh)]⟩)

theorem exclusive_empty : empty.Exclusive := by
  intro i j s t hs
  simp [empty] at hs

/-- What a bus does with its queues is nothing to its exclusiveness. -/
theorem Exclusive.of_react (h : b.Exclusive)
    (hlength : b'.subscribers.length = b.subscribers.length)
    (hat : ∀ (i : Nat) (s : Subscriber), b.subscribers[i]? = some s →
      ∃ s', b'.subscribers[i]? = some s' ∧ s'.name = s.name ∧ s'.interest = s.interest) :
    b'.Exclusive := by
  have hback : ∀ (i : Nat) (s' : Subscriber), b'.subscribers[i]? = some s' →
      ∃ s, b.subscribers[i]? = some s ∧ s'.name = s.name ∧ s'.interest = s.interest := by
    intro i s' hs'
    obtain ⟨hi, -⟩ := List.getElem?_eq_some_iff.1 hs'
    obtain ⟨s, hs⟩ : ∃ s, b.subscribers[i]? = some s :=
      ⟨_, List.getElem?_eq_getElem (hlength ▸ hi)⟩
    obtain ⟨t', ht', hname, hinterest⟩ := hat i s hs
    obtain rfl : s' = t' := Option.some.inj (hs'.symm.trans ht')
    exact ⟨s, hs, hname, hinterest⟩
  intro i j s' t' hs' ht' hname k hks hkt
  obtain ⟨s, hs, hsname, hsinterest⟩ := hback i s' hs'
  obtain ⟨t, ht, htname, htinterest⟩ := hback j t' ht'
  rw [hsname, htname] at hname
  rw [hsinterest] at hks
  rw [htinterest] at hkt
  exact h i j s t hs ht hname k hks hkt

/-- A newcomer that meets no subscriber of its name can be added. -/
theorem Exclusive.concat (h : b.Exclusive) (hfree : ¬ b.Holds name interest) (q : Queue Event) :
    (⟨b.subscribers ++ [⟨name, interest, q, 0, 0⟩]⟩ : Bus).Exclusive := by
  have hapart : ∀ s ∈ b.subscribers, s.name = name → ∀ k, s.interest.wants k = true →
      interest.wants k = true → False := fun s hs hname k hks hk =>
    hfree ⟨s, hs, hname, .inr (.inr ⟨k, hks, hk⟩)⟩
  intro i j s t hs ht hname k hks hkt
  rw [List.getElem?_append] at hs ht
  split at hs
  next hi =>
    split at ht
    next hj => exact h i j s t hs ht hname k hks hkt
    next hj =>
      obtain ⟨_, rfl⟩ := List.getElem?_eq_some_iff.1 ht
      simp only [List.getElem_singleton] at hname hkt
      exact (hapart s (List.mem_of_getElem? hs) hname k hks hkt).elim
  next hi =>
    split at ht
    next hj =>
      obtain ⟨_, rfl⟩ := List.getElem?_eq_some_iff.1 hs
      simp only [List.getElem_singleton] at hname hks
      exact (hapart t (List.mem_of_getElem? ht) hname.symm k hkt hks).elim
    next hj =>
      obtain ⟨hi', -⟩ := List.getElem?_eq_some_iff.1 hs
      obtain ⟨hj', -⟩ := List.getElem?_eq_some_iff.1 ht
      simp only [List.length_singleton] at hi' hj'
      omega

theorem Exclusive.step (h : b.Exclusive) (op : Op) : (b.step op).2.Exclusive := by
  have hkept : (b.step op).1.isSubscribed = false → (b.step op).2.Exclusive := by
    intro hnot
    refine h.of_react (by simp [length_step, hnot]) fun i s hs => ?_
    have hreacts := s.reacts i op
    exact ⟨_, (step_at hs op).1, hreacts.name, hreacts.interest⟩
  cases op with
  | subscribe name interest capacity =>
    obtain ⟨-, heq⟩ | ⟨-, -, heq⟩ | ⟨-, hfree, heq⟩ := subscribe_cases b name interest capacity
    · exact hkept (by simp [Bus.step, heq, Answer.isSubscribed])
    · exact hkept (by simp [Bus.step, heq, Answer.isSubscribed])
    · simp only [Bus.step, heq]
      exact h.concat hfree _
  | publish e => exact hkept rfl
  | receive j => exact hkept rfl
  | leave j => exact hkept rfl

theorem Exclusive.after (h : b.Exclusive) (ops : List Op) : (b.after ops).Exclusive := by
  induction ops generalizing b with
  | nil => exact h
  | cons op ops ih => exact ih (h.step op)

/-- A subscriber that a publication changes wants the event. -/
theorem wants_of_publish_ne {e : Event} {i : Nat} {s : Subscriber}
    (h : b.subscribers[i]? = some s) (hne : (b.publish e).1.subscribers[i]? ≠ some s) :
    s.interest.wants e.kind = true := by
  by_contra hnot
  have hstays := Subscriber.offer_of_not_wants (Bool.eq_false_iff.2 hnot)
  exact hne (by simp [publish, h, hstays])

/-- Every run of a bus. Subscribers of one name never want the same kind, so that a publication
changes at most one of them. A subscription is refused for a capacity of zero, or for a subscriber
of its name whose interest meets the new one, and for nothing else; what is refused changes
nothing. -/
theorem run_exclusive (ops : List Op) :
    let b := empty.after ops
    b.Exclusive ∧
    (∀ (e : Event) (i j : Nat) (s t : Subscriber), b.subscribers[i]? = some s →
      b.subscribers[j]? = some t → s.name = t.name →
      (b.publish e).1.subscribers[i]? ≠ some s → (b.publish e).1.subscribers[j]? ≠ some t →
      i = j) ∧
    ∀ name interest capacity,
      let (answer, b') := b.step (.subscribe name interest capacity)
      (answer = .refused .zeroCapacity ↔ capacity = 0) ∧
      (∀ n, answer = .refused (.duplicateSubscription n) ↔
        n = name ∧ capacity ≠ 0 ∧ b.Holds name interest) ∧
      (answer = .subscribed ↔ capacity ≠ 0 ∧ ¬ b.Holds name interest) ∧
      (answer = .subscribed →
        b'.subscribers = b.subscribers ++ [⟨name, interest, .empty capacity, 0, 0⟩]) ∧
      ∀ cause, answer = .refused cause → b' = b := by
  intro b
  have hexclusive : b.Exclusive := exclusive_empty.after ops
  refine ⟨hexclusive, fun e i j s t hs ht hname hi hj => ?_, fun name interest capacity => ?_⟩
  · have hwants := wants_of_publish_ne hs hi
    exact hexclusive i j s t hs ht hname e.kind hwants (wants_of_publish_ne ht hj)
  · obtain ⟨hc, heq⟩ | ⟨hc, hh, heq⟩ | ⟨hc, hh, heq⟩ := subscribe_cases b name interest capacity
    · subst hc
      simp [step, heq]
    · simp [step, heq, hc, hh, eq_comm]
    · simp [step, heq, hc, hh]

def rivals : List Op :=
  [.subscribe "writer" (.kinds [.say, .sayTeam]) 4, .subscribe "writer" (.kinds [.sayTeam]) 4,
    .subscribe "writer" (.kinds []) 1, .subscribe "all" .any 0, .subscribe "all" .any 1,
    .subscribe "all" (.kinds []) 1, .publish (.bare .say ⟨1, "s"⟩ ⟨0, 0⟩),
    .subscribe "writer" (.kinds [.connected]) 2]

/-- An interest in everything meets one in nothing, and of two subscribers of one name an event
reaches one. -/
theorem run_exclusive_rivals :
    let b := empty.after rivals
    b.subscribers.map (·.name) = ["writer", "writer", "all", "writer"] ∧ b.Exclusive ∧
      (b.step (.subscribe "writer" .any 1)).1 = .refused (.duplicateSubscription "writer") ∧
      (b.step (.subscribe "all" (.kinds []) 1)).2 = b := by
  intro b
  obtain ⟨hexclusive, -, hsubscribe⟩ := run_exclusive rivals
  obtain ⟨-, hwriter, -⟩ := hsubscribe "writer" .any 1
  obtain ⟨-, hall, -, -, hsame⟩ := hsubscribe "all" (.kinds []) 1
  have hheld : b.Holds "all" (.kinds []) := holds_iff.1 (by decide)
  exact ⟨by decide, hexclusive, (hwriter "writer").2 ⟨rfl, by decide, holds_iff.1 (by decide)⟩,
    hsame _ ((hall "all").2 ⟨rfl, by decide, hheld⟩)⟩

end Bus
end Moderation
