/-!
Bounded queues, first in first out. A queue takes an item unless it is closed or full, and says
which; closing loses what is queued.
-/
namespace Moderation

inductive Refusal where
  | full
  | closed
  deriving DecidableEq

structure Queue (α : Type) where
  capacity : Nat
  items : List α
  isOpen : Bool
  fits : items.length ≤ capacity

namespace Queue
variable {α : Type}

def empty (capacity : Nat) : Queue α := ⟨capacity, [], true, Nat.zero_le _⟩

def ofCapacity (capacity : Nat) : Queue α := empty (max 1 capacity)

theorem length_concat_le {n : Nat} {as : List α} (a : α) (h : as.length < n) :
    (as ++ [a]).length ≤ n := by
  rw [List.length_append]
  exact h

def offer (q : Queue α) (a : α) : Except Refusal (Queue α) :=
  if !q.isOpen then .error .closed
  else if h : q.items.length < q.capacity then
    .ok { q with items := q.items ++ [a], fits := length_concat_le a h }
  else .error .full

def take? (q : Queue α) : Option (α × Queue α) :=
  match h : q.items with
  | [] => none
  | a :: rest => some (a, { q with items := rest, fits := by have := q.fits; simp [h] at this; omega })

def drained (q : Queue α) : Queue α := { q with items := [], fits := Nat.zero_le _ }

def close (q : Queue α) : Queue α := { q with items := [], isOpen := false, fits := Nat.zero_le _ }

theorem items_offer {q r : Queue α} {a : α} (h : q.offer a = .ok r) :
    r.items = q.items ++ [a] ∧ r.capacity = q.capacity ∧ r.isOpen = true := by
  unfold offer at h
  split at h
  · cases h
  · split at h
    · cases h
      exact ⟨rfl, rfl, by simp_all⟩
    · cases h

theorem items_take? {q r : Queue α} {a : α} (h : q.take? = some (a, r)) :
    q.items = a :: r.items ∧ r.capacity = q.capacity ∧ r.isOpen = q.isOpen := by
  unfold take? at h
  split at h
  · cases h
  · cases h
    exact ⟨by assumption, rfl, rfl⟩

def HasRoom (q : Queue α) : Prop := q.isOpen = true ∧ q.items.length < q.capacity

instance (q : Queue α) : Decidable q.HasRoom := inferInstanceAs (Decidable (_ ∧ _))

theorem offer_of_hasRoom {q : Queue α} (h : q.HasRoom) (a : α) : ∃ r, q.offer a = .ok r := by
  refine ⟨{ q with items := q.items ++ [a], fits := length_concat_le a h.2 }, ?_⟩
  simp [offer, h.1, h.2]

theorem offer_of_not_hasRoom {q : Queue α} (h : ¬ q.HasRoom) (a : α) :
    ∃ refusal, q.offer a = .error refusal := by
  unfold offer
  split
  next => exact ⟨_, rfl⟩
  next hopen =>
    split
    next hlt => exact absurd ⟨by simpa using hopen, hlt⟩ h
    next => exact ⟨_, rfl⟩

theorem eq_full_of_offer {q : Queue α} {a : α} {cause : Refusal} (hopen : q.isOpen = true)
    (h : q.offer a = .error cause) : cause = .full := by
  unfold offer at h
  split at h
  next hclosed => simp [hopen] at hclosed
  next =>
    split at h <;> cases h
    rfl

theorem items_of_take?_eq_none {q : Queue α} (h : q.take? = none) : q.items = [] := by
  unfold take? at h
  split at h
  · assumption
  · cases h

end Queue
end Moderation
