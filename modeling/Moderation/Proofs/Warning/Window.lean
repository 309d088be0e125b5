import Moderation.Proofs.Warning.Run
/-!
The age of the warnings in an escalation. A record does not look at dates, so that the bound on them
comes from the sweeps: no live warning was older than the timeout when the last one was made.
-/
namespace Moderation.Warning.Tracker
open Time

namespace Op

def time : Op → Instant
  | .record _ w => w.createdAt
  | .sweep now => now

def sweepTime? : Op → Option Instant
  | .record _ _ => none
  | .sweep now => some now

end Op

/-- The time of the last sweep of a run, or that of its start if there was none. -/
def lastSweep (start : Instant) (ops : List Op) : Instant :=
  (ops.filterMap Op.sweepTime?).getLast?.getD start

theorem lastSweep_record (start : Instant) (ops : List Op) (p : SteamId) (w : Warning) :
    lastSweep start (ops ++ [.record p w]) = lastSweep start ops := by
  simp [lastSweep, Op.sweepTime?]

theorem lastSweep_sweep (start : Instant) (ops : List Op) (now : Instant) :
    lastSweep start (ops ++ [.sweep now]) = now := by
  simp [lastSweep, Op.sweepTime?]

/-- Steps whose times do not decrease, none of them before the start. -/
structure Chronological (start : Instant) (ops : List Op) : Prop where
  begins : ∀ op ∈ ops, start ≤ op.time
  ordered : ops.Pairwise fun a b => a.time ≤ b.time

/-- Such steps, with every record at most `gap` after the last sweep. -/
structure Paced (start : Instant) (gap : Span) (ops : List Op) : Prop
    extends Chronological start ops where
  prompt : ∀ n p w, ops[n]? = some (Op.record p w) →
    w.createdAt.since (lastSweep start (ops.take n)) ≤ gap

theorem lastSweep_le {start now : Instant} {ops : List Op} (hstart : start ≤ now)
    (h : ∀ op ∈ ops, op.time ≤ now) : lastSweep start ops ≤ now := by
  induction ops using List.reverseRecOn with
  | nil => exact hstart
  | append_singleton ops op ih =>
    cases op with
    | sweep s =>
      rw [lastSweep_sweep]
      exact h (.sweep s) (by simp)
    | record p w =>
      rw [lastSweep_record]
      exact ih fun op hop => h op (by simp [hop])

namespace Chronological
variable {start : Instant} {before later : List Op} {op : Op}

theorem left (h : Chronological start (before ++ later)) : Chronological start before :=
  ⟨fun op hop => h.begins op (List.mem_append_left _ hop), (List.pairwise_append.1 h.ordered).1⟩

theorem lastSweep_le_time (h : Chronological start (before ++ op :: later)) :
    lastSweep start before ≤ op.time :=
  lastSweep_le (h.begins op (by simp)) fun x hx =>
    (List.pairwise_append.1 h.ordered).2.2 x hx op (List.mem_cons_self ..)

end Chronological

/-- A live warning was live before the step, and then a sweep has found it fresh, or it is new. -/
theorem mem_live_step {t : Tracker} {op : Op} {p : SteamId} {w : Warning}
    (h : w ∈ (t.step op).2.live p) :
    (w ∈ t.live p ∧ ∀ now, op = .sweep now → Fresh t.timeout now w) ∨ op = .record p w := by
  cases op with
  | sweep now =>
    simp only [step, live_sweep] at h
    obtain ⟨hmem, hfresh⟩ := List.mem_filter.1 h
    refine .inl ⟨hmem, ?_⟩
    rintro _ ⟨⟩
    exact of_decide_eq_true hfresh
  | record q v =>
    have hno : ∀ now, Op.record q v = .sweep now → Fresh t.timeout now w := by
      intro now hop
      cases hop
    obtain hlt | hle := Nat.lt_or_ge (t.live q).length t.limit
    · simp only [step, (record_of_lt v hlt).2 p] at h
      split at h
      next hq =>
        subst hq
        obtain h | h := List.mem_append.1 h
        · exact .inl ⟨h, hno⟩
        · rw [List.mem_singleton.1 h]
          exact .inr rfl
      next => exact .inl ⟨h, hno⟩
    · simp only [step, (record_of_le v hle).2.2 p] at h
      split at h
      · cases h
      · exact .inl ⟨h, hno⟩

/-- At the time of the last sweep no live warning is older than the timeout. -/
theorem Chronological.fresh_at_lastSweep {start : Instant} {ops : List Op}
    (h : Chronological start ops) (limit : Nat) {timeout : Span} (htimeout : Span.zero ≤ timeout)
    {p : SteamId} {w : Warning} (hw : w ∈ ((empty limit timeout).after ops).live p) :
    Fresh timeout (lastSweep start ops) w := by
  induction ops using List.reverseRecOn with
  | nil => cases hw
  | append_singleton ops op ih =>
    have hkept : ((empty limit timeout).after ops).timeout = timeout := (after_limit _ ops).2
    rw [after_concat] at hw
    obtain ⟨hold, hfresh⟩ | rfl := mem_live_step hw
    · cases op with
      | sweep now =>
        rw [lastSweep_sweep]
        exact hkept ▸ hfresh now rfl
      | record q v =>
        rw [lastSweep_record]
        exact ih h.left hold
    · -- a new warning is not older than the last sweep
      have hlast : (lastSweep start ops).nanos ≤ w.createdAt.nanos := h.lastSweep_le_time
      have hzero : 0 ≤ timeout.nanos := htimeout
      rw [lastSweep_record]
      change (lastSweep start ops).nanos - w.createdAt.nanos ≤ timeout.nanos
      omega

/-- If every record comes at most `gap` after a sweep, or after the start while there is none, then
no warning of an escalation is older than the timeout and the gap together. -/
theorem age_of_escalated (limit : Nat) {timeout gap : Span} (htimeout : Span.zero ≤ timeout)
    {start : Instant} {ops : List Op} (h : Paced start gap ops) {n : Nat} {ws : List Warning}
    (hws : ((empty limit timeout).answers ops)[n]? = some (.outcome (.escalated ws))) :
    ∃ op, ops[n]? = some op ∧
      ∀ w ∈ ws, op.time.since w.createdAt ≤ ⟨timeout.nanos + gap.nanos⟩ := by
  have hn := (List.getElem?_eq_some_iff.1 hws).1
  rw [length_answers] at hn
  have hat := List.getElem?_eq_getElem hn
  have hanswer := (answers_at (empty limit timeout) hat).1
  rw [hws] at hanswer
  obtain ⟨p, v, hop, -, rfl⟩ := eq_of_escalated (Option.some.inj hanswer).symm
  rw [hop] at hat
  have hsplit : ops = ops.take n ++ .record p v :: ops.drop (n + 1) := by
    rw [← hop]
    simp
  refine ⟨.record p v, hat, fun w hw => ?_⟩
  have hchrono := h.toChronological
  rw [hsplit] at hchrono
  have hprompt : v.createdAt.nanos - (lastSweep start (ops.take n)).nanos ≤ gap.nanos :=
    h.prompt n p v hat
  have hlast : (lastSweep start (ops.take n)).nanos ≤ v.createdAt.nanos :=
    hchrono.lastSweep_le_time
  change v.createdAt.nanos - w.createdAt.nanos ≤ timeout.nanos + gap.nanos
  obtain hw | hw := List.mem_append.1 hw
  · have hage : (lastSweep start (ops.take n)).nanos - w.createdAt.nanos ≤ timeout.nanos :=
      hchrono.left.fresh_at_lastSweep limit htimeout hw
    omega
  · have hzero : 0 ≤ timeout.nanos := htimeout
    rw [List.mem_singleton.1 hw]
    omega

/-- A warning that a sweep just keeps, and the last record that the gap allows. -/
def lastMinute : List Op := [.record ann (warningAt 0), .sweep ⟨10⟩, .record ann (warningAt 15)]

theorem paced_lastMinute : Paced ⟨0⟩ ⟨5⟩ lastMinute where
  begins := by decide
  ordered := by decide
  prompt n p w h := by
    match n, h with
    | 0, h =>
      cases h
      decide
    | 1, h => cases h
    | 2, h =>
      cases h
      decide

theorem age_of_escalated_lastMinute :
    Span.zero ≤ ⟨10⟩ ∧ Paced ⟨0⟩ ⟨5⟩ lastMinute ∧
      ((empty 1 ⟨10⟩).answers lastMinute)[2]? =
        some (.outcome (.escalated [warningAt 0, warningAt 15])) ∧
      (warningAt 15).createdAt.since (warningAt 0).createdAt = ⟨15⟩ ∧
      (warningAt 15).createdAt.since (warningAt 0).createdAt ≤ ⟨10 + 5⟩ := by
  have htimeout : Span.zero ≤ ⟨10⟩ := by decide
  have hanswer : ((empty 1 ⟨10⟩).answers lastMinute)[2]? =
      some (.outcome (.escalated [warningAt 0, warningAt 15])) := by decide
  obtain ⟨op, hop, hage⟩ := age_of_escalated 1 htimeout paced_lastMinute hanswer
  cases hop
  exact ⟨htimeout, paced_lastMinute, hanswer, rfl, hage (warningAt 0) (by simp)⟩

end Moderation.Warning.Tracker
