import Moderation.Proofs.Table
import Moderation.Proofs.Warning.Run
/-!
Sweeps. Whatever the dates of the warnings are, one sweep removes all that are too old and no
others, and it takes in what an earlier sweep would have done.
-/
namespace Moderation.Warning.Tracker
open Time

def stale (t : Tracker) (now : Instant) : Nat :=
  Number.total (t.records.values.map (·.countP fun w => t.timeout < now.since w.createdAt))

structure Swept (t : Tracker) (now : Instant) (n : Nat) (u : Tracker) : Prop where
  limit : u.limit = t.limit
  timeout : u.timeout = t.timeout
  live : ∀ p, u.live p = (t.live p).filter fun w => now.since w.createdAt ≤ t.timeout
  tracked : ∀ p, u.isTracked p = true ↔ t.isTracked p = true ∧ u.live p ≠ []
  removed : n = t.stale now
  balance : t.total = n + u.total

theorem isTracked_sweep (t : Tracker) (now : Instant) (p : SteamId) :
    (t.sweep now).2.isTracked p = true ↔
      t.isTracked p = true ∧ (t.sweep now).2.live p ≠ [] := by
  rw [live_sweep]
  simp only [isTracked, Table.contains, sweep, Table.get?_filterMap, live]
  cases t.records.get? p with
  | none => simp
  | some ws =>
    have hkeep := @keep_eq_none_iff t.timeout now ws
    simp [Option.isSome_iff_ne_none, hkeep]

theorem length_eq_add_keep (timeout : Span) (now : Instant) (ws : List Warning) :
    ws.length = ws.countP (fun w => timeout < now.since w.createdAt) +
      ((keep timeout now ws).getD []).length := by
  have hsplit := List.length_eq_countP_add_countP (fun w => decide (Fresh timeout now w)) (l := ws)
  have hold : ws.countP (fun w => decide ¬ decide (Fresh timeout now w) = true) =
      ws.countP fun w => timeout < now.since w.createdAt :=
    List.countP_congr fun w _ => by simp [Fresh, ← Span.not_lt]
  rw [getD_keep, ← List.countP_eq_length_filter]
  omega

/-- A sweep counts what it removes, and removes what is too old. -/
theorem total_sweep (t : Tracker) (now : Instant) :
    t.total = t.stale now + (t.sweep now).2.total := by
  simp only [Tracker.total, stale, sweep, Table.values, Table.filterMap, List.map_map]
  induction t.records.entries with
  | nil => rfl
  | cons e es ih =>
    have hlen := length_eq_add_keep t.timeout now e.2
    rw [List.map_cons, List.map_cons, Number.total_cons, Number.total_cons, ih]
    cases hkeep : keep t.timeout now e.2 with
    | none =>
      simp only [hkeep, Option.getD_none, List.length_nil, Function.comp_apply] at hlen ⊢
      rw [List.filterMap_cons_none (by simp [hkeep])]
      omega
    | some kept =>
      simp only [hkeep, Option.getD_some, Function.comp_apply] at hlen ⊢
      rw [List.filterMap_cons_some (b := (e.1, kept)) (by simp [hkeep]), List.map_cons,
        Number.total_cons]
      simp only [Function.comp_apply]
      omega

theorem swept_sweep (t : Tracker) (now : Instant) :
    t.Swept now (t.sweep now).1 (t.sweep now).2 := by
  have htotal := t.total_sweep now
  have hcount : (t.sweep now).1 = t.total - (t.sweep now).2.total := rfl
  refine ⟨rfl, rfl, t.live_sweep now, t.isTracked_sweep now, ?_, ?_⟩ <;> omega

/-- What is fresh later has been fresh before. -/
theorem Fresh.of_later {timeout : Span} {now later : Instant} {w : Warning} (h : now ≤ later)
    (hw : Fresh timeout later w) : Fresh timeout now w := by
  have hnow : now.nanos ≤ later.nanos := h
  have hage : later.nanos - w.createdAt.nanos ≤ timeout.nanos := hw
  change now.nanos - w.createdAt.nanos ≤ timeout.nanos
  omega

theorem keep_keep {timeout : Span} {now later : Instant} (h : now ≤ later) (ws : List Warning) :
    (keep timeout now ws).bind (keep timeout later) = keep timeout later ws := by
  have hboth : (ws.filter (Fresh timeout now)).filter (Fresh timeout later) =
      ws.filter (Fresh timeout later) := by
    rw [List.filter_filter]
    refine List.filter_congr fun w _ => ?_
    by_cases hw : Fresh timeout later w
    · simp [hw, hw.of_later h]
    · simp [hw]
  cases hkeep : keep timeout now ws with
  | none =>
    rw [keep_eq_none_iff.1 hkeep] at hboth
    exact (keep_eq_none_iff.2 hboth.symm).symm
  | some kept =>
    have hkept := getD_keep timeout now ws
    rw [hkeep, Option.getD_some] at hkept
    rw [Option.bind_some, hkept]
    simp only [keep, hboth]

/-- A later sweep leaves the same whether or not there was one before. -/
theorem sweep_sweep_snd (t : Tracker) {now later : Instant} (h : now ≤ later) :
    ((t.sweep now).2.sweep later).2 = (t.sweep later).2 := by
  simp only [sweep, Table.filterMap_filterMap, keep_keep h]

/-- A sweep removes exactly the warnings that are older than the timeout and counts them. The others
stay in their order, and so do the players who have one of them. Of two sweeps the second leaves
what it leaves alone, both together count what it counts alone, and at the same time it counts
nothing. -/
theorem sweep_sweep (t : Tracker) {now later : Instant} (h : now ≤ later) :
    t.Swept now (t.sweep now).1 (t.sweep now).2 ∧
      ((t.sweep now).2.sweep later).2 = (t.sweep later).2 ∧
      (t.sweep now).1 + ((t.sweep now).2.sweep later).1 = (t.sweep later).1 ∧
      (t.sweep now).2.sweep now = (0, (t.sweep now).2) := by
  have hfirst := t.swept_sweep now
  have hsecond := (t.sweep now).2.swept_sweep later
  have halone := t.swept_sweep later
  have hagain := (t.sweep now).2.swept_sweep now
  have hsame := t.sweep_sweep_snd h
  have hidle := t.sweep_sweep_snd (Int.le_refl now.nanos : now ≤ now)
  refine ⟨hfirst, hsame, ?_, ?_⟩
  · have hbalance := hsecond.balance
    have hfirst := hfirst.balance
    have halone := halone.balance
    rw [hsame] at hbalance
    omega
  · have hbalance := hagain.balance
    rw [hidle] at hbalance
    exact Prod.ext (by omega) hidle

/-- Warnings that are dated out of order, one of them in the future. -/
def unordered : Tracker :=
  ⟨3, ⟨10⟩, (Table.empty.insert ann [warningAt 50, warningAt 0, warningAt 9]).insert ben
    [warningAt 1]⟩

theorem sweep_sweep_unordered :
    let now : Instant := ⟨11⟩
    let later : Instant := ⟨15⟩
    now ≤ later ∧ unordered.Swept now 1 (unordered.sweep now).2 ∧
      (unordered.sweep now).2.live ann = [warningAt 50, warningAt 9] ∧
      ((unordered.sweep now).2.sweep later).2 = (unordered.sweep later).2 ∧
      1 + ((unordered.sweep now).2.sweep later).1 = 2 ∧
      (unordered.sweep now).2.sweep now = (0, (unordered.sweep now).2) := by
  intro now later
  have h : now ≤ later := by decide
  obtain ⟨hswept, hstate, hcount, hidle⟩ := unordered.sweep_sweep h
  have hfirst : (unordered.sweep now).1 = 1 := by decide
  have halone : (unordered.sweep later).1 = 2 := by decide
  rw [hfirst] at hswept hcount
  rw [halone] at hcount
  refine ⟨h, hswept, ?_, hstate, hcount, hidle⟩
  rw [hswept.live]
  decide

end Moderation.Warning.Tracker
