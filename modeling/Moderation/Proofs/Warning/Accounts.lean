import Moderation.Proofs.Table
import Moderation.Proofs.Warning.Ledger
/-!
Accounts of the warnings recorded in a run. `exists_ledger` gives every run a ledger that agrees with
the tracker and with all answers, and with it the balance of live, escalated and swept warnings.
-/
namespace Moderation.Warning.Tracker
open Time

def Groups (t : Tracker) (items : List (SteamId × Warning)) : Prop :=
  ∀ p, t.live p = (items.filter (·.1 = p)).map (·.2)

theorem Groups.total {t : Tracker} {items : List (SteamId × Warning)} (h : t.Groups items) :
    t.total = items.length := by
  rw [← Table.total_length_entries t.records.ordered h]
  simp [Tracker.total, Table.values, Function.comp_def]

theorem groups_empty (limit : Nat) (timeout : Span) : (empty limit timeout).Groups [] :=
  fun _ => rfl

theorem Groups.record_of_lt {t : Tracker} {items : List (SteamId × Warning)} {p : SteamId}
    (h : t.Groups items) (w : Warning) (hlt : (t.live p).length < t.limit) :
    (t.record p w).2.Groups (items ++ [(p, w)]) := by
  intro q
  rw [(Tracker.record_of_lt w hlt).2 q, List.filter_append, List.map_append]
  by_cases hq : p = q
  · subst hq
    simp [h p]
  · simp [hq, h q]

theorem Groups.record_of_le {t : Tracker} {items : List (SteamId × Warning)} {p : SteamId}
    (h : t.Groups items) (w : Warning) (hle : t.limit ≤ (t.live p).length) :
    (t.record p w).2.Groups (items.filter (·.1 ≠ p)) := by
  intro q
  rw [(Tracker.record_of_le w hle).2.2 q, List.filter_filter]
  by_cases hq : p = q
  · subst hq
    simp
  · rw [if_neg hq, h q]
    congr 1
    refine List.filter_congr fun x _ => ?_
    by_cases hx : x.1 = q
    · simp [hx, Ne.symm hq]
    · simp [hx]

theorem Groups.sweep {t : Tracker} {items : List (SteamId × Warning)} (h : t.Groups items)
    (now : Instant) :
    (t.sweep now).2.Groups (items.filter fun x => decide (Fresh t.timeout now x.2)) := by
  intro q
  rw [live_sweep, h q, List.filter_map, List.filter_filter, List.filter_filter]
  congr 1
  exact List.filter_congr fun x _ => Bool.and_comm ..

def Op.recorded? : Op → Option (SteamId × Warning)
  | .record p w => some (p, w)
  | .sweep _ => none

def Answer.isEscalated : Answer → Bool
  | .outcome (.escalated _) => true
  | _ => false

def Answer.removals : Answer → Nat
  | .removed n => n
  | _ => 0

/-- No step loses or doubles a warning. -/
theorem Groups.balance {t : Tracker} {items : List (SteamId × Warning)} (h : t.Groups items)
    (hb : t.Bounded) (op : Op) :
    t.total + op.recorded?.toList.length = (t.step op).2.total +
      (t.limit + 1) * [(t.step op).1].countP (·.isEscalated) + (t.step op).1.removals := by
  cases op with
  | record p w =>
    by_cases hlt : (t.live p).length < t.limit
    · have hnext := (h.record_of_lt w hlt).total
      simp only [step, (Tracker.record_of_lt w hlt).1]
      rw [hnext, h.total]
      simp [Op.recorded?, Answer.isEscalated, Answer.removals]
    · have hle := Nat.le_of_not_lt hlt
      have hnext := (h.record_of_le w hle).total
      have hlen : (items.filter (·.1 = p)).length = t.limit := by
        have hp := congrArg List.length (h p)
        rw [List.length_map] at hp
        exact hp.symm.trans (Nat.le_antisymm (hb.length_live p) hle)
      have hsplit := List.length_eq_length_filter_add (l := items) fun x => decide (x.1 = p)
      simp only [step, (Tracker.record_of_le w hle).1]
      rw [hnext, h.total, hsplit, hlen]
      simp [Op.recorded?, Answer.isEscalated, Answer.removals]
      omega
  | sweep now =>
    have hnext := (h.sweep now).total
    -- a sweep counts by subtraction, which loses nothing since no warning is added
    have hle : (t.sweep now).2.total ≤ t.total := by
      rw [hnext, h.total]
      exact List.length_filter_le ..
    have hcount : (t.sweep now).1 = t.total - (t.sweep now).2.total := rfl
    simp only [step, Op.recorded?, Answer.removals, Answer.isEscalated]
    rw [hcount]
    simp
    omega

def handedOver : Option Op → Option Answer → List (SteamId × Warning)
  | some (.record p _), some (.outcome (.escalated ws)) => ws.map (p, ·)
  | _, _ => []

def removedBy (a : Option Answer) : Nat := (a.map (·.removals)).getD 0

structure Accounts (l : Ledger) (t : Tracker) (ops : List Op) : Prop where
  recorded : l.items = ops.filterMap Op.recorded?
  timely : l.Timely ops
  live : (t.after ops).Groups (l.placed .live)
  escalated : ∀ n, l.placed (.escalated n) = handedOver ops[n]? (t.answers ops)[n]?
  swept : ∀ n, (l.placed (.swept n)).length = removedBy (t.answers ops)[n]?
  stale : ∀ n, ∀ x ∈ l.placed (.swept n),
    ∃ now, ops[n]? = some (.sweep now) ∧ ¬ Fresh t.timeout now x.2

theorem accounts_empty (limit : Nat) (timeout : Span) :
    Accounts [] (empty limit timeout) [] where
  recorded := rfl
  timely := ⟨nofun, List.Pairwise.nil, nofun⟩
  live := groups_empty limit timeout
  escalated _ := rfl
  swept _ := rfl
  stale n x hx := by cases hx

namespace Accounts
variable {l : Ledger} {t : Tracker} {ops : List Op}

theorem placed_length (h : Accounts l t ops) :
    l.placed (.escalated ops.length) = [] ∧ l.placed (.swept ops.length) = [] := by
  have hop : ops[ops.length]? = none := List.getElem?_eq_none (Nat.le_refl _)
  have hanswer : (t.answers ops)[ops.length]? = none :=
    List.getElem?_eq_none (Nat.le_of_eq (length_answers t ops))
  have hswept := h.swept ops.length
  rw [hanswer] at hswept
  refine ⟨?_, List.eq_nil_of_length_eq_zero hswept⟩
  rw [h.escalated, hop]
  rfl

/-- The earlier steps keep their places, so only those of the new step are to be seen to. -/
theorem extend (h : Accounts l t ops) {op : Op} {l' : Ledger}
    (hrec : l'.items = l.items ++ op.recorded?.toList) (htimely : l'.Timely (ops ++ [op]))
    (hlive : (t.after (ops ++ [op])).Groups (l'.placed .live))
    (hescalated : ∀ n, n ≠ ops.length → l'.placed (.escalated n) = l.placed (.escalated n))
    (hswept : ∀ n, n ≠ ops.length → l'.placed (.swept n) = l.placed (.swept n))
    (hgiven : l'.placed (.escalated ops.length) =
      handedOver (some op) (some ((t.after ops).step op).1))
    (hremoved : (l'.placed (.swept ops.length)).length = ((t.after ops).step op).1.removals)
    (hstale : ∀ x ∈ l'.placed (.swept ops.length), ∃ now, op = .sweep now ∧
      ¬ Fresh t.timeout now x.2) : Accounts l' t (ops ++ [op]) := by
  -- steps and answers at other places are those of the shorter run, beyond its end there are none
  have hop : ∀ n, n ≠ ops.length → (ops ++ [op])[n]? = ops[n]? := by
    intro n hn
    obtain hlt | hgt := Nat.lt_or_gt_of_ne hn
    · exact List.getElem?_append_left hlt
    · rw [List.getElem?_eq_none (by simp; omega), List.getElem?_eq_none (by omega)]
  have hanswer : ∀ n, n ≠ ops.length → (t.answers (ops ++ [op]))[n]? = (t.answers ops)[n]? := by
    intro n hn
    rw [answers_concat]
    have hlen := length_answers t ops
    obtain hlt | hgt := Nat.lt_or_gt_of_ne hn
    · exact List.getElem?_append_left (by omega)
    · rw [List.getElem?_eq_none (by simp; omega), List.getElem?_eq_none (by omega)]
  have hlast : (t.answers (ops ++ [op]))[ops.length]? = some ((t.after ops).step op).1 := by
    rw [answers_concat, ← length_answers t ops]
    exact List.getElem?_concat_length
  refine ⟨?_, htimely, hlive, fun n => ?_, fun n => ?_, fun n x hx => ?_⟩
  · rw [hrec, h.recorded, List.filterMap_append]
    cases op <;> rfl
  · by_cases hn : n = ops.length
    · subst hn
      rw [hgiven, hlast, List.getElem?_concat_length]
    · rw [hescalated n hn, h.escalated, hop n hn, hanswer n hn]
  · by_cases hn : n = ops.length
    · subst hn
      rw [hremoved, hlast]
      rfl
    · rw [hswept n hn, h.swept, hanswer n hn]
  · by_cases hn : n = ops.length
    · subst hn
      obtain ⟨now, hnow, hold⟩ := hstale x hx
      exact ⟨now, by rw [List.getElem?_concat_length, hnow], hold⟩
    · rw [hop n hn]
      exact h.stale n x (hswept n hn ▸ hx)

theorem record_of_lt (h : Accounts l t ops) {p : SteamId} (w : Warning)
    (hlt : ((t.after ops).live p).length < (t.after ops).limit) :
    Accounts (l.enter ops.length p w) t (ops ++ [.record p w]) := by
  obtain ⟨hnone, hzero⟩ := h.placed_length
  have hout := (Tracker.record_of_lt w hlt).1
  refine h.extend (l.items_enter _ p w) (h.timely.enter p w) ?_ (fun n _ => ?_) (fun n _ => ?_)
    ?_ ?_ ?_
  · rw [after_concat, Ledger.placed_enter, if_pos rfl]
    exact h.live.record_of_lt w hlt
  · exact l.placed_enter _ p w _
  · exact l.placed_enter _ p w _
  · simp only [Ledger.placed_enter, step, hout]
    exact hnone
  · simp only [Ledger.placed_enter, step, hout]
    exact congrArg List.length hzero
  · intro x hx
    rw [Ledger.placed_enter] at hx
    simp [hzero] at hx

theorem record_of_le (h : Accounts l t ops) {p : SteamId} (w : Warning)
    (hle : (t.after ops).limit ≤ ((t.after ops).live p).length) :
    Accounts ((l.enter ops.length p w).move (.escalated ops.length) (·.1 = p)) t
      (ops ++ [.record p w]) := by
  obtain ⟨hnone, hzero⟩ := h.placed_length
  have hout := (Tracker.record_of_le w hle).1
  have hlive : (l.enter ops.length p w).placed .live = l.placed .live ++ [(p, w)] :=
    l.placed_enter _ p w .live
  -- the new warning is entered first, so that it is handed over with the others
  have hplaced : ∀ x : Place, x ≠ .live → x ≠ .escalated ops.length →
      ((l.enter ops.length p w).move (.escalated ops.length) (·.1 = p)).placed x =
        l.placed x := by
    intro x hx hne
    rw [Ledger.placed_move_of_ne _ hx (Ne.symm hne), Ledger.placed_enter, if_neg hx]
  have hswept := hplaced (.swept ops.length) (by simp) (by simp)
  refine h.extend ?_ ((h.timely.enter p w).move _ ?_) ?_
    (fun n hn => hplaced _ (by simp) (by simpa using hn))
    (fun n _ => hplaced _ (by simp) (by simp)) ?_ ?_ ?_
  · rw [Ledger.items_move, Ledger.items_enter]
    rfl
  · rintro n (hn | hn) <;> cases hn
    exact Nat.le_of_eq List.length_append
  · rw [after_concat, Ledger.placed_move_live _ (by simp), hlive]
    have hgroups := h.live.record_of_le w hle
    simpa [Tracker.step] using hgroups
  · have hown := h.live p
    rw [Ledger.placed_move_self _ (by simp) _ (by simpa [Ledger.placed_enter] using hnone), hlive]
    simp only [step, hout, handedOver, hown, List.filter_append, List.map_append, List.map_map]
    congr 1
    · refine (List.map_id _).symm.trans (List.map_congr_left fun x hx => ?_)
      have hx1 : x.1 = p := by simpa using (List.mem_filter.1 hx).2
      exact Prod.ext hx1 rfl
    · simp
  · simp only [step, hout]
    rw [hswept, hzero]
    rfl
  · intro x hx
    rw [hswept, hzero] at hx
    cases hx

theorem sweep (h : Accounts l t ops) (now : Instant) :
    Accounts (l.move (.swept ops.length) fun x => decide ¬ Fresh t.timeout now x.2) t
      (ops ++ [.sweep now]) := by
  obtain ⟨hnone, hzero⟩ := h.placed_length
  have htimeout := (after_limit t ops).2
  have hself := Ledger.placed_move_self l (by simp) (fun x => decide ¬ Fresh t.timeout now x.2) hzero
  have hplaced : ∀ x : Place, x ≠ .live → x ≠ .swept ops.length →
      (l.move (.swept ops.length) fun x => decide ¬ Fresh t.timeout now x.2).placed x =
        l.placed x :=
    fun x hx hne => Ledger.placed_move_of_ne _ hx (Ne.symm hne) _
  have hgroups := h.live.sweep now
  refine h.extend ?_ ((h.timely.concat _).move _ ?_) ?_
    (fun n _ => hplaced _ (by simp) (by simp))
    (fun n hn => hplaced _ (by simp) (by simpa using hn)) ?_ ?_ ?_
  · rw [Ledger.items_move]
    exact (List.append_nil _).symm
  · rintro n (hn | hn) <;> cases hn
    exact Nat.le_of_eq List.length_append
  · rw [after_concat, Ledger.placed_move_live _ (by simp)]
    simpa [Tracker.step, htimeout] using hgroups
  · rw [hplaced _ (by simp) (by simp), hnone]
    rfl
  · have hsplit := List.length_eq_length_filter_add (l := l.placed .live)
      fun x => decide (Fresh t.timeout now x.2)
    have hcount : ((t.after ops).sweep now).1 =
        (t.after ops).total - ((t.after ops).sweep now).2.total := rfl
    simp only [step, Answer.removals, hcount]
    rw [hself, h.live.total, hgroups.total, htimeout, hsplit]
    simp
  · intro x hx
    rw [hself] at hx
    exact ⟨now, rfl, by simpa using (List.mem_filter.1 hx).2⟩

theorem step (h : Accounts l t ops) (op : Op) : ∃ l', Accounts l' t (ops ++ [op]) := by
  cases op with
  | record p w =>
    obtain hlt | hle := Nat.lt_or_ge ((t.after ops).live p).length (t.after ops).limit
    · exact ⟨_, h.record_of_lt w hlt⟩
    · exact ⟨_, h.record_of_le w hle⟩
  | sweep now => exact ⟨_, h.sweep now⟩

end Accounts

theorem accounts_exist (limit : Nat) (timeout : Span) (ops : List Op) :
    ∃ l, Accounts l (empty limit timeout) ops := by
  induction ops using List.reverseRecOn with
  | nil => exact ⟨[], accounts_empty limit timeout⟩
  | append_singleton ops op ih =>
    obtain ⟨l, hl⟩ := ih
    exact hl.step op

section Answers
variable {t : Tracker}

/-- An escalation hands over one warning more than the limit, and forgets its player. -/
theorem escalated_step (hb : t.Bounded) {op : Op} {ws : List Warning}
    (h : (t.step op).1 = .outcome (.escalated ws)) :
    ws.length = t.limit + 1 ∧ ∃ p w, op = .record p w ∧ (t.step op).2.isTracked p = false := by
  obtain ⟨p, w, rfl, hle, rfl⟩ := eq_of_escalated h
  have hlen := Nat.le_antisymm (hb.length_live p) hle
  exact ⟨by simp [hlen], p, w, rfl, (record_of_le w hle).2.1⟩

theorem warned_step {op : Op} {n : Nat} (h : (t.step op).1 = .outcome (.warned n)) :
    ∃ p w, op = .record p w ∧ n = (t.step op).2.count p := by
  cases op with
  | sweep now => cases h
  | record p w =>
    obtain hlt | hle := Nat.lt_or_ge (t.live p).length t.limit
    · obtain ⟨hout, hlive⟩ := record_of_lt w hlt
      simp only [step, hout] at h
      cases h
      exact ⟨p, w, rfl, by simp [step, count, hlive]⟩
    · simp only [step, (record_of_le w hle).1] at h
      cases h

end Answers

theorem balance_after (limit : Nat) (timeout : Span) (ops : List Op) :
    (ops.filterMap Op.recorded?).length = ((empty limit timeout).after ops).total +
      (limit + 1) * ((empty limit timeout).answers ops).countP (·.isEscalated) +
      Number.total (((empty limit timeout).answers ops).map (·.removals)) := by
  induction ops using List.reverseRecOn with
  | nil => rfl
  | append_singleton ops op ih =>
    obtain ⟨l, hl⟩ := accounts_exist limit timeout ops
    have hstep := hl.live.balance (bounded_after (bounded_empty limit timeout) ops) op
    have hlimit : ((empty limit timeout).after ops).limit = limit := (after_limit _ ops).1
    have hrec : ([op].filterMap Op.recorded?).length = op.recorded?.toList.length := by
      cases op <;> rfl
    rw [hlimit] at hstep
    rw [answers_concat, after_concat, List.filterMap_append, List.length_append, ih, hrec,
      List.countP_append, List.map_append, Number.total_append, List.map_singleton,
      Number.total_cons, Number.total_nil, Nat.mul_add]
    omega

/-- Every warning of a run is in one place: live in the record of its player, handed over by one
escalation of the player, or removed by one sweep. -/
theorem exists_ledger (limit : Nat) (timeout : Span) (ops : List Op) :
    let t := empty limit timeout
    ∃ l : Ledger, Accounts l t ops ∧
      (∀ n p ws, (t.after (ops.take n)).records.get? p = some ws →
        1 ≤ ws.length ∧ ws.length ≤ limit) ∧
      (∀ n ws, (t.answers ops)[n]? = some (.outcome (.escalated ws)) →
        ws.length = limit + 1 ∧ ∃ p w, ops[n]? = some (.record p w) ∧
          l.placed (.escalated n) = ws.map (p, ·) ∧
          (t.after (ops.take (n + 1))).isTracked p = false) ∧
      (∀ n c, (t.answers ops)[n]? = some (.outcome (.warned c)) →
        ∃ p w, ops[n]? = some (.record p w) ∧
          c = (t.after (ops.take (n + 1))).count p) ∧
      (ops.filterMap Op.recorded?).length = (t.after ops).total +
        (limit + 1) * (t.answers ops).countP (·.isEscalated) +
        Number.total ((t.answers ops).map (·.removals)) := by
  intro t
  have hb : ∀ n, (t.after (ops.take n)).Bounded := fun n =>
    bounded_after (bounded_empty limit timeout) _
  have hlimit : ∀ n, (t.after (ops.take n)).limit = limit := fun n => (after_limit t _).1
  have hop : ∀ {n a}, (t.answers ops)[n]? = some a → ∃ op, ops[n]? = some op ∧
      ((t.after (ops.take n)).step op).1 = a := by
    intro n a h
    have hn := (List.getElem?_eq_some_iff.1 h).1
    rw [length_answers] at hn
    have hat := List.getElem?_eq_getElem hn
    exact ⟨_, hat, Option.some_inj.1 ((answers_at t hat).1.symm.trans h)⟩
  obtain ⟨l, hl⟩ := accounts_exist limit timeout ops
  refine ⟨l, hl, fun n p ws h => ?_, fun n ws h => ?_, fun n c h => ?_,
    balance_after limit timeout ops⟩
  · have := hb n p ws h
    rwa [hlimit n] at this
  · obtain ⟨op, hat, hanswer⟩ := hop h
    obtain ⟨hlen, p, w, rfl, hgone⟩ := escalated_step (hb n) hanswer
    rw [hlimit n] at hlen
    refine ⟨hlen, p, w, hat, ?_, ?_⟩
    · rw [hl.escalated, hat, h]
      rfl
    · rwa [(answers_at t hat).2]
  · obtain ⟨op, hat, hanswer⟩ := hop h
    obtain ⟨p, w, rfl, hcount⟩ := warned_step hanswer
    refine ⟨p, w, hat, ?_⟩
    rwa [(answers_at t hat).2]

end Moderation.Warning.Tracker
