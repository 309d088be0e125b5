import Mathlib.Data.List.Induction
import Moderation.Warning.Tracker
/-!
Runs of a tracker: records and sweeps in any order. What a step does to the live warnings of each
player, and how many a player can have.
-/
namespace Moderation.Warning.Tracker
open Time

inductive Op where
  | record (p : SteamId) (w : Warning)
  | sweep (now : Instant)

inductive Answer where
  | outcome (out : Outcome)
  | removed (n : Nat)
  deriving DecidableEq

def step (t : Tracker) : Op → Answer × Tracker
  | .record p w => (.outcome (t.record p w).1, (t.record p w).2)
  | .sweep now => (.removed (t.sweep now).1, (t.sweep now).2)

def after (t : Tracker) (ops : List Op) : Tracker := ops.foldl (fun t op => (t.step op).2) t

def answers (t : Tracker) : List Op → List Answer
  | [] => []
  | op :: ops => (t.step op).1 :: answers (t.step op).2 ops

theorem after_concat (t : Tracker) (ops : List Op) (op : Op) :
    t.after (ops ++ [op]) = ((t.after ops).step op).2 := by
  simp [after]

theorem length_answers (t : Tracker) (ops : List Op) : (t.answers ops).length = ops.length := by
  induction ops generalizing t with
  | nil => rfl
  | cons op ops ih => simp [answers, ih]

theorem answers_concat (t : Tracker) (ops : List Op) (op : Op) :
    t.answers (ops ++ [op]) = t.answers ops ++ [((t.after ops).step op).1] := by
  induction ops generalizing t with
  | nil => rfl
  | cons o ops ih => simp [answers, after, ih]

/-- The answer at a place of a run is that of its step in the state before it. -/
theorem answers_at {ops : List Op} {n : Nat} {op : Op} (t : Tracker) (h : ops[n]? = some op) :
    (t.answers ops)[n]? = some ((t.after (ops.take n)).step op).1 ∧
      t.after (ops.take (n + 1)) = ((t.after (ops.take n)).step op).2 := by
  induction ops generalizing t n with
  | nil => cases h
  | cons o ops ih =>
    cases n with
    | zero => cases h; exact ⟨rfl, rfl⟩
    | succ n => exact ih _ h

theorem step_limit (t : Tracker) (op : Op) :
    (t.step op).2.limit = t.limit ∧ (t.step op).2.timeout = t.timeout := by
  cases op with
  | record p w =>
    simp only [step, record]
    split <;> exact ⟨rfl, rfl⟩
  | sweep now => exact ⟨rfl, rfl⟩

theorem after_limit (t : Tracker) (ops : List Op) :
    (t.after ops).limit = t.limit ∧ (t.after ops).timeout = t.timeout := by
  induction ops using List.reverseRecOn with
  | nil => exact ⟨rfl, rfl⟩
  | append_singleton ops op ih =>
    rw [after_concat]
    exact ⟨(step_limit _ op).1.trans ih.1, (step_limit _ op).2.trans ih.2⟩

theorem keep_eq_none_iff {timeout : Span} {now : Instant} {ws : List Warning} :
    keep timeout now ws = none ↔ ws.filter (Fresh timeout now) = [] := by
  simp [keep, List.isEmpty_iff]

theorem getD_keep (timeout : Span) (now : Instant) (ws : List Warning) :
    (keep timeout now ws).getD [] = ws.filter (Fresh timeout now) := by
  cases h : keep timeout now ws with
  | none => exact (keep_eq_none_iff.1 h).symm
  | some kept =>
    simp only [keep] at h
    split at h
    · cases h
    · exact (Option.some.inj h).symm

theorem live_sweep (t : Tracker) (now : Instant) (p : SteamId) :
    (t.sweep now).2.live p = (t.live p).filter (Fresh t.timeout now) := by
  simp only [live, sweep, Table.get?_filterMap]
  cases t.records.get? p with
  | none => rfl
  | some ws => exact getD_keep t.timeout now ws

/-- A record within the limit adds to the warnings of its player. -/
theorem record_of_lt {t : Tracker} {p : SteamId} (w : Warning)
    (h : (t.live p).length < t.limit) :
    (t.record p w).1 = .warned ((t.live p).length + 1) ∧
      ∀ q, (t.record p w).2.live q = if p = q then t.live p ++ [w] else t.live q := by
  have hlen : ¬ t.limit < (t.live p ++ [w]).length := by simp; omega
  have hrec : t.record p w = (.warned (t.live p ++ [w]).length,
      { t with records := t.records.insert p (t.live p ++ [w]) }) := if_neg hlen
  rw [hrec]
  refine ⟨by simp, fun q => ?_⟩
  rw [live, Table.get?_insert]
  split <;> rfl

/-- A record beyond the limit hands all warnings of its player over. -/
theorem record_of_le {t : Tracker} {p : SteamId} (w : Warning)
    (h : t.limit ≤ (t.live p).length) :
    (t.record p w).1 = .escalated (t.live p ++ [w]) ∧
      (t.record p w).2.isTracked p = false ∧
      ∀ q, (t.record p w).2.live q = if p = q then [] else t.live q := by
  have hlen : t.limit < (t.live p ++ [w]).length := by simp; omega
  have hrec : t.record p w =
      (.escalated (t.live p ++ [w]), { t with records := t.records.erase p }) := if_pos hlen
  rw [hrec]
  refine ⟨rfl, by simp [isTracked, Table.contains, Table.get?_erase], fun q => ?_⟩
  rw [live, Table.get?_erase]
  split <;> rfl

/-- An escalation hands over the live warnings of its player, and the new one. -/
theorem eq_of_escalated {t : Tracker} {op : Op} {ws : List Warning}
    (h : (t.step op).1 = .outcome (.escalated ws)) :
    ∃ p w, op = .record p w ∧ t.limit ≤ (t.live p).length ∧ ws = t.live p ++ [w] := by
  cases op with
  | sweep now => cases h
  | record p w =>
    obtain hlt | hle := Nat.lt_or_ge (t.live p).length t.limit
    · simp only [step, (record_of_lt w hlt).1] at h
      cases h
    · simp only [step, (record_of_le w hle).1] at h
      cases h
      exact ⟨p, w, rfl, hle, rfl⟩

/-- Every player with a record has at least one warning, and at most as many as the limit. -/
def Bounded (t : Tracker) : Prop :=
  ∀ p ws, t.records.get? p = some ws → 1 ≤ ws.length ∧ ws.length ≤ t.limit

theorem Bounded.length_live {t : Tracker} (h : t.Bounded) (p : SteamId) :
    (t.live p).length ≤ t.limit := by
  unfold live
  cases hp : t.records.get? p with
  | none => exact Nat.zero_le _
  | some ws => exact (h p ws hp).2

theorem bounded_step {t : Tracker} (h : t.Bounded) (op : Op) : (t.step op).2.Bounded := by
  intro q ws hws
  cases op with
  | record p w =>
    simp only [step, record] at hws ⊢
    split at hws
    next hlen =>
      rw [if_pos hlen]
      rw [Table.get?_erase] at hws
      split at hws
      · cases hws
      · exact h q ws hws
    next hlen =>
      rw [if_neg hlen]
      rw [Table.get?_insert] at hws
      split at hws
      · cases hws
        exact ⟨by simp, Nat.le_of_not_lt hlen⟩
      · exact h q ws hws
  | sweep now =>
    simp only [step, sweep, Table.get?_filterMap] at hws ⊢
    obtain ⟨vs, hvs, hkeep⟩ := Option.bind_eq_some_iff.1 hws
    simp only [keep] at hkeep
    split at hkeep
    · cases hkeep
    next hne =>
      cases hkeep
      have hle := List.length_filter_le (fun w => decide (Fresh t.timeout now w)) vs
      have hpos := List.length_pos_iff.2 fun hnil => hne (List.isEmpty_iff.2 hnil)
      exact ⟨hpos, Nat.le_trans hle (h q vs hvs).2⟩

theorem bounded_after {t : Tracker} (h : t.Bounded) (ops : List Op) : (t.after ops).Bounded := by
  induction ops using List.reverseRecOn with
  | nil => exact h
  | append_singleton ops op ih =>
    rw [after_concat]
    exact bounded_step ih op

theorem bounded_empty (limit : Nat) (timeout : Span) : (empty limit timeout).Bounded := by
  intro p ws h
  cases h

def ann : SteamId := ⟨76561197960265729⟩

def ben : SteamId := ⟨76561197960265730⟩

def warningAt (nanos : Int) : Warning := ⟨.language, "m", "m", 1, "m", ⟨nanos⟩⟩

end Moderation.Warning.Tracker
