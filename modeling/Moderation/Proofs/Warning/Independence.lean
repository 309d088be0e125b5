import Moderation.Proofs.Warning.Accounts
/-!
The warnings of one player among those of others. What becomes of them follows from the steps that
concern the player alone; without sweeps every escalation ends a cycle of one record more than the
limit.
-/
namespace Moderation.Warning.Tracker
open Time

namespace Op

def concerns (p : SteamId) : Op → Bool
  | .record q _ => q = p
  | .sweep _ => true

def outcome? (p : SteamId) : Op → Answer → Option Outcome
  | .record q _, .outcome out => if q = p then some out else none
  | _, _ => none

end Op

def view (p : SteamId) (ops : List Op) : List Op := ops.filter (·.concerns p)

def outcomesOf (t : Tracker) (p : SteamId) (ops : List Op) : List Outcome :=
  (ops.zip (t.answers ops)).filterMap fun x => x.1.outcome? p x.2

def warningsOf (p : SteamId) (ops : List Op) : List Warning :=
  ((ops.filterMap Op.recorded?).filter (·.1 = p)).map (·.2)

theorem outcomesOf_cons (t : Tracker) (p : SteamId) (op : Op) (ops : List Op) :
    t.outcomesOf p (op :: ops) =
      (op.outcome? p (t.step op).1).toList ++ (t.step op).2.outcomesOf p ops := by
  simp only [outcomesOf, answers, List.zip_cons_cons, List.filterMap_cons]
  cases op.outcome? p (t.step op).1 <;> rfl

theorem outcomesOf_concat (t : Tracker) (p : SteamId) (ops : List Op) (op : Op) :
    t.outcomesOf p (ops ++ [op]) =
      t.outcomesOf p ops ++ (op.outcome? p ((t.after ops).step op).1).toList := by
  induction ops generalizing t with
  | nil =>
    rw [List.nil_append, outcomesOf_cons, outcomesOf]
    simp [after, answers, outcomesOf]
  | cons o ops ih =>
    rw [List.cons_append, outcomesOf_cons, outcomesOf_cons, ih, List.append_assoc]
    rfl

structure Alike (p : SteamId) (t u : Tracker) : Prop where
  limit : t.limit = u.limit
  timeout : t.timeout = u.timeout
  record : t.records.get? p = u.records.get? p

namespace Alike
variable {p : SteamId} {t u : Tracker}

theorem live (h : Alike p t u) : t.live p = u.live p := by
  rw [Tracker.live, h.record]
  rfl

/-- Both answer a step that concerns the player alike, and go on knowing the same. -/
theorem step (h : Alike p t u) {op : Op} (hop : op.concerns p = true) :
    op.outcome? p (t.step op).1 = op.outcome? p (u.step op).1 ∧
      Alike p (t.step op).2 (u.step op).2 := by
  cases op with
  | sweep now =>
    refine ⟨rfl, h.limit, h.timeout, ?_⟩
    simp only [Tracker.step, Tracker.sweep, Table.get?_filterMap, h.record, h.timeout]
  | record q w =>
    have hq : q = p := by simpa [Op.concerns] using hop
    subst hq
    simp only [Tracker.step, Tracker.record, h.live, h.limit]
    split
    · exact ⟨rfl, rfl, h.timeout, by simp [Table.get?_erase]⟩
    · exact ⟨rfl, rfl, h.timeout, by simp [Table.get?_insert]⟩

/-- A step that does not concern the player leaves what is known of them. -/
theorem skip (h : Alike p t u) {op : Op} (hop : op.concerns p = false) :
    op.outcome? p (t.step op).1 = none ∧ Alike p (t.step op).2 u := by
  cases op with
  | sweep now => cases hop
  | record q w =>
    have hq : q ≠ p := by simpa [Op.concerns] using hop
    refine ⟨if_neg hq, ?_⟩
    simp only [Tracker.step, Tracker.record]
    split
    · exact ⟨h.limit, h.timeout, by simp [Table.get?_erase, hq, h.record]⟩
    · exact ⟨h.limit, h.timeout, by simp [Table.get?_insert, hq, h.record]⟩

/-- A player's part of a run is that of the run of the steps that concern the player. -/
theorem run (h : Alike p t u) (ops : List Op) :
    t.outcomesOf p ops = u.outcomesOf p (view p ops) ∧
      Alike p (t.after ops) (u.after (view p ops)) := by
  induction ops generalizing t u with
  | nil => exact ⟨rfl, h⟩
  | cons op ops ih =>
    cases hop : op.concerns p with
    | true =>
      have hview : view p (op :: ops) = op :: view p ops := List.filter_cons_of_pos hop
      obtain ⟨hanswer, hnext⟩ := h.step hop
      obtain ⟨hout, hafter⟩ := ih hnext
      rw [hview, outcomesOf_cons, outcomesOf_cons, hanswer, hout]
      exact ⟨rfl, hafter⟩
    | false =>
      have hview : view p (op :: ops) = view p ops := List.filter_cons_of_neg (by simp [hop])
      obtain ⟨hnone, hnext⟩ := h.skip hop
      obtain ⟨hout, hafter⟩ := ih hnext
      rw [hview, outcomesOf_cons, hnone]
      exact ⟨hout, hafter⟩

end Alike

theorem view_of_no_sweep {p : SteamId} {ops : List Op} (h : ∀ now, .sweep now ∉ ops) :
    view p ops = (warningsOf p ops).map (.record p) := by
  induction ops with
  | nil => rfl
  | cons op ops ih =>
    have hrest := ih fun now hmem => h now (List.mem_cons_of_mem _ hmem)
    cases op with
    | sweep now => exact absurd (List.mem_cons_self ..) (h now)
    | record q w =>
      by_cases hq : q = p
      · subst hq
        simpa [view, warningsOf, Op.concerns, Op.recorded?] using hrest
      · simpa [view, warningsOf, Op.concerns, Op.recorded?, hq] using hrest

/-- The outcome of the last of some warnings of a player, none of which was swept: whenever there is
one more than the limit, the last of them are handed over, and counting starts anew. -/
def cycleOutcome (limit : Nat) (ws : List Warning) : Outcome :=
  if limit + 1 ∣ ws.length then .escalated (ws.drop (ws.length - (limit + 1)))
  else .warned (ws.length % (limit + 1))

/-- The warnings since the last escalation. -/
def openCycle (limit : Nat) (ws : List Warning) : List Warning :=
  ws.drop (ws.length - ws.length % (limit + 1))

theorem length_openCycle (limit : Nat) (ws : List Warning) :
    (openCycle limit ws).length = ws.length % (limit + 1) := by
  have hle := Nat.mod_le ws.length (limit + 1)
  rw [openCycle, List.length_drop]
  omega

theorem succ_mod_of_lt {n limit : Nat} (h : n % (limit + 1) < limit) :
    (n + 1) % (limit + 1) = n % (limit + 1) + 1 := by
  rw [← Nat.mod_add_mod, Nat.mod_eq_of_lt (Nat.succ_lt_succ h)]

theorem mod_eq_of_le {n limit : Nat} (h : limit ≤ n % (limit + 1)) :
    n % (limit + 1) = limit ∧ (n + 1) % (limit + 1) = 0 := by
  have hlast : n % (limit + 1) = limit :=
    Nat.le_antisymm (Nat.le_of_lt_succ (Nat.mod_lt n (Nat.zero_lt_succ limit))) h
  refine ⟨hlast, ?_⟩
  rw [← Nat.mod_add_mod, hlast, Nat.mod_self]

/-- A further warning goes on with the cycle, or fills it up. -/
theorem record_openCycle {t : Tracker} {p : SteamId} {ws : List Warning} (w : Warning)
    (h : t.live p = openCycle t.limit ws) :
    (t.record p w).1 = cycleOutcome t.limit (ws ++ [w]) ∧
      (t.record p w).2.live p = openCycle t.limit (ws ++ [w]) := by
  have hlen : (t.live p).length = ws.length % (t.limit + 1) := by rw [h, length_openCycle]
  simp only [cycleOutcome, openCycle, Nat.dvd_iff_mod_eq_zero, List.length_append,
    List.length_singleton]
  obtain hlt | hge := Nat.lt_or_ge (t.live p).length t.limit
  · obtain ⟨hout, hlive⟩ := record_of_lt w hlt
    have hnext := succ_mod_of_lt (hlen ▸ hlt)
    rw [hout, hlive, if_pos rfl, hlen, hnext, if_neg (Nat.succ_ne_zero _), h]
    -- the open cycle begins where it began
    refine ⟨rfl, ?_⟩
    rw [openCycle, Nat.add_sub_add_right, List.drop_append_of_le_length (Nat.sub_le ..)]
  · obtain ⟨hout, -, hlive⟩ := record_of_le w hge
    obtain ⟨hlast, hnext⟩ := mod_eq_of_le (hlen ▸ hge)
    rw [hout, hlive, if_pos rfl, hnext, if_pos rfl, h]
    -- the cycle is full: it is handed over whole, and the next one is empty
    refine ⟨?_, by simp⟩
    rw [openCycle, hlast, Nat.add_sub_add_right, List.drop_append_of_le_length (Nat.sub_le ..)]

/-- Without sweeps the outcomes of a player go in cycles. -/
theorem outcomesOf_records (limit : Nat) (timeout : Span) (p : SteamId) (ws : List Warning) :
    let t := empty limit timeout
    (t.after (ws.map (.record p))).live p = openCycle limit ws ∧
      (t.outcomesOf p (ws.map (.record p))).length = ws.length ∧
      ∀ k < ws.length, (t.outcomesOf p (ws.map (.record p)))[k]? =
        some (cycleOutcome limit (ws.take (k + 1))) := by
  intro t
  induction ws using List.reverseRecOn with
  | nil => exact ⟨rfl, rfl, nofun⟩
  | append_singleton ws w ih =>
    obtain ⟨hlive, hlen, hout⟩ := ih
    have hlimit : (t.after (ws.map (.record p))).limit = limit := (after_limit t _).1
    have hrecord := record_openCycle w (by rw [hlive, hlimit])
    rw [hlimit] at hrecord
    rw [List.map_append, List.map_singleton, after_concat, outcomesOf_concat]
    have hlast : ((Op.record p w).outcome? p
        ((t.after (ws.map (.record p))).step (.record p w)).1).toList =
          [cycleOutcome limit (ws ++ [w])] := by
      simp [Op.outcome?, step, hrecord.1]
    rw [hlast]
    refine ⟨hrecord.2, by simp [hlen], fun k hk => ?_⟩
    rw [List.length_append, List.length_singleton] at hk
    obtain hlt | rfl := Nat.lt_succ_iff_lt_or_eq.1 hk
    · rw [List.getElem?_append_left (by omega), hout k hlt,
        List.take_append_of_le_length (by omega)]
    · rw [← hlen, List.getElem?_concat_length, hlen, List.take_of_length_le (by simp)]

/-- What becomes of a player's warnings does not depend on other players: any two runs with the same
records of the player, and with sweeps at the same times and places among them, have the same
outcomes and leave the same record of the player. Without sweeps each outcome is that of the number
of records so far. -/
theorem outcomesOf_of_view_eq (limit : Nat) (timeout : Span) (p : SteamId) :
    let t := empty limit timeout
    (∀ ops others, view p ops = view p others →
      t.outcomesOf p ops = t.outcomesOf p others ∧
        (t.after ops).records.get? p = (t.after others).records.get? p) ∧
    ∀ ops, (∀ now, .sweep now ∉ ops) →
      (t.outcomesOf p ops).length = (warningsOf p ops).length ∧
      ∀ k, 1 ≤ k → k ≤ (warningsOf p ops).length →
        (t.outcomesOf p ops)[k - 1]? = some (if limit + 1 ∣ k
          then .escalated (((warningsOf p ops).take k).drop (k - (limit + 1)))
          else .warned (k % (limit + 1))) := by
  intro t
  have hself : Alike p t t := ⟨rfl, rfl, rfl⟩
  refine ⟨fun ops others hview => ?_, fun ops hsweep => ?_⟩
  · obtain ⟨hout, hafter⟩ := hself.run ops
    obtain ⟨hout', hafter'⟩ := hself.run others
    rw [hview] at hout hafter
    exact ⟨hout.trans hout'.symm, hafter.record.trans hafter'.record.symm⟩
  · -- without sweeps the player's part of the run is the player's records
    obtain ⟨-, hlen, hcycle⟩ := outcomesOf_records limit timeout p (warningsOf p ops)
    rw [(hself.run ops).1, view_of_no_sweep hsweep]
    refine ⟨hlen, fun k hpos hk => ?_⟩
    rw [hcycle (k - 1) (by omega), Nat.sub_add_cancel hpos, cycleOutcome, List.length_take,
      Nat.min_eq_left hk]

/-- A warning that is swept, and two more. -/
def alone : List Op :=
  [.record ann (warningAt 0), .sweep ⟨11⟩, .record ann (warningAt 12), .record ann (warningAt 13)]

/-- The same in a run in which another player is escalated and warned again. -/
def crowded : List Op :=
  [.record ben (warningAt 0), .record ann (warningAt 0), .record ben (warningAt 9), .sweep ⟨11⟩,
    .record ann (warningAt 12), .record ben (warningAt 12), .record ann (warningAt 13)]

def unswept : List Op :=
  [.record ann (warningAt 0), .record ben (warningAt 1), .record ann (warningAt 2)]

theorem outcomesOf_of_view_eq_crowded :
    let t := empty 1 ⟨10⟩
    view ann alone = view ann crowded ∧ t.outcomesOf ann alone = t.outcomesOf ann crowded ∧
      (t.after alone).records.get? ann = (t.after crowded).records.get? ann ∧
      (∀ now, .sweep now ∉ unswept) ∧ 2 ≤ (warningsOf ann unswept).length ∧
      (t.outcomesOf ann unswept)[1]? = some (.escalated [warningAt 0, warningAt 2]) := by
  obtain ⟨hviews, hcycles⟩ := outcomesOf_of_view_eq 1 ⟨10⟩ ann
  have hsame : view ann alone = view ann crowded := rfl
  obtain ⟨hout, hrecord⟩ := hviews alone crowded hsame
  have hsweep : ∀ now, .sweep now ∉ unswept := by simp [unswept]
  have hlen : 2 ≤ (warningsOf ann unswept).length := by decide
  refine ⟨hsame, hout, hrecord, hsweep, hlen, ?_⟩
  rw [(hcycles unswept hsweep).2 2 (by decide) hlen]
  decide

end Moderation.Warning.Tracker
