import Moderation.Proofs.Warning.Run
/-!
Ledgers of the warnings recorded in a run. There is one entry for each of them, in order, and the
entry says where the warning is: still live, handed over by an escalation, or removed by a sweep.
-/
namespace Moderation.Warning.Tracker

/-- Where a recorded warning is; steps are counted from zero. -/
inductive Place where
  | live
  | escalated (step : Nat)
  | swept (step : Nat)
  deriving DecidableEq

structure Entry where
  step : Nat
  player : SteamId
  warning : Warning
  place : Place

abbrev Ledger := List Entry

namespace Ledger

def items (l : Ledger) : List (SteamId × Warning) := l.map fun e => (e.player, e.warning)

def placed (l : Ledger) (x : Place) : List (SteamId × Warning) :=
  items (l.filter (·.place = x))

def enter (l : Ledger) (n : Nat) (p : SteamId) (w : Warning) : Ledger := l ++ [⟨n, p, w, .live⟩]

def move (l : Ledger) (x : Place) (f : SteamId × Warning → Bool) : Ledger :=
  l.map fun e => if e.place = .live ∧ f (e.player, e.warning) then { e with place := x } else e

theorem items_enter (l : Ledger) (n : Nat) (p : SteamId) (w : Warning) :
    (l.enter n p w).items = l.items ++ [(p, w)] := by
  simp [items, enter]

theorem items_move (l : Ledger) (x : Place) (f : SteamId × Warning → Bool) :
    (l.move x f).items = l.items := by
  simp only [items, move, List.map_map]
  refine List.map_congr_left fun e _ => ?_
  simp only [Function.comp_apply]
  split <;> rfl

theorem placed_enter (l : Ledger) (n : Nat) (p : SteamId) (w : Warning) (x : Place) :
    (l.enter n p w).placed x = if x = .live then l.placed x ++ [(p, w)] else l.placed x := by
  by_cases hx : x = .live
  · simp [placed, items, enter, hx]
  · simp [placed, items, enter, hx, Ne.symm hx]

theorem placed_move_live (l : Ledger) {x : Place} (hx : x ≠ .live) (f : SteamId × Warning → Bool) :
    (l.move x f).placed .live = (l.placed .live).filter (!f ·) := by
  induction l with
  | nil => rfl
  | cons e l ih =>
    simp only [placed, items, move, List.map_cons, List.filter_cons] at ih ⊢
    by_cases he : e.place = .live <;> by_cases hf : f (e.player, e.warning) = true <;>
      simp [he, hf, hx, ih]

/-- A place that was empty has what was moved there. -/
theorem placed_move_self (l : Ledger) {x : Place} (hx : x ≠ .live) (f : SteamId × Warning → Bool)
    (h : l.placed x = []) : (l.move x f).placed x = (l.placed .live).filter f := by
  induction l with
  | nil => rfl
  | cons e l ih =>
    simp only [placed, items, move, List.map_cons, List.filter_cons] at ih h ⊢
    by_cases he : e.place = .live <;> by_cases hf : f (e.player, e.warning) = true <;>
      by_cases hex : e.place = x <;> simp_all

theorem placed_move_of_ne (l : Ledger) {x y : Place} (hy : y ≠ .live) (hxy : x ≠ y)
    (f : SteamId × Warning → Bool) : (l.move x f).placed y = l.placed y := by
  induction l with
  | nil => rfl
  | cons e l ih =>
    simp only [placed, items, move, List.map_cons, List.filter_cons] at ih ⊢
    by_cases he : e.place = .live
    · by_cases hf : f (e.player, e.warning) = true <;> simp [he, hf, hxy, Ne.symm hy, ih]
    · have hno : ¬(e.place = .live ∧ f (e.player, e.warning) = true) := fun h => he h.1
      rw [if_neg hno]
      by_cases hey : e.place = y <;> simp [hey, ih]

structure Timely (l : Ledger) (ops : List Op) : Prop where
  recorded : ∀ e ∈ l, ops[e.step]? = some (.record e.player e.warning)
  ordered : l.Pairwise fun d e => d.step < e.step
  leaves : ∀ e ∈ l, ∀ n, e.place = .escalated n ∨ e.place = .swept n → e.step ≤ n

namespace Timely
variable {l : Ledger} {ops : List Op}

theorem step_lt (h : l.Timely ops) {e : Entry} (he : e ∈ l) : e.step < ops.length :=
  (List.getElem?_eq_some_iff.1 (h.recorded e he)).1

theorem concat (h : l.Timely ops) (op : Op) : l.Timely (ops ++ [op]) where
  recorded e he := by
    rw [List.getElem?_append_left (h.step_lt he)]
    exact h.recorded e he
  ordered := h.ordered
  leaves := h.leaves

theorem enter (h : l.Timely ops) (p : SteamId) (w : Warning) :
    (l.enter ops.length p w).Timely (ops ++ [.record p w]) where
  recorded e he := by
    obtain hold | hnew := List.mem_append.1 he
    · exact (h.concat _).recorded e hold
    · cases List.mem_singleton.1 hnew
      exact List.getElem?_concat_length
  ordered := by
    refine List.pairwise_append.2 ⟨h.ordered, List.pairwise_singleton _ _, fun d hd e he => ?_⟩
    cases List.mem_singleton.1 he
    exact h.step_lt hd
  leaves e he n hplace := by
    obtain hold | hnew := List.mem_append.1 he
    · exact h.leaves e hold n hplace
    · cases List.mem_singleton.1 hnew
      rcases hplace with hplace | hplace <;> cases hplace

theorem move (h : l.Timely ops) {x : Place} (f : SteamId × Warning → Bool)
    (hx : ∀ n, x = .escalated n ∨ x = .swept n → ops.length ≤ n + 1) :
    (l.move x f).Timely ops := by
  have hsame : ∀ e ∈ l.move x f, ∃ d ∈ l, e = d ∨ e = { d with place := x } := by
    intro e he
    obtain ⟨d, hd, rfl⟩ := List.mem_map.1 he
    refine ⟨d, hd, ?_⟩
    split
    · exact .inr rfl
    · exact .inl rfl
  refine ⟨fun e he => ?_, ?_, fun e he n hplace => ?_⟩
  · obtain ⟨d, hd, rfl | rfl⟩ := hsame e he
    · exact h.recorded _ hd
    · exact h.recorded d hd
  · refine List.pairwise_map.2 (h.ordered.imp fun hlt => ?_)
    split <;> split <;> exact hlt
  · obtain ⟨d, hd, rfl | rfl⟩ := hsame e he
    · exact h.leaves _ hd n hplace
    · have hlt := h.step_lt hd
      exact Nat.le_of_lt_succ (Nat.lt_of_lt_of_le hlt (hx n hplace))

end Timely
end Ledger

end Moderation.Warning.Tracker
