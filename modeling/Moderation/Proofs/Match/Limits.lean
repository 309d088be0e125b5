import Moderation.Match.Summary
import Moderation.Proofs.Match.Reported
import Moderation.Proofs.Match.Rounds
import Moderation.Proofs.Match.Totals
/-!
Overflows. A run of the live matches of lines fails exactly if the damage or healing of a side in a
live match outgrows its type. All other totals, and the scores, are numbers of events.
-/
namespace Moderation
open Number Time Log

/-- An event that a line reports, at whatever time. -/
def Event.IsReported (e : Event) : Prop :=
  ∃ now line c time, classify now e.origin line = .ok c ∧ e = { c.event with occurredAt := time }

namespace Match

theorem Tally.holds_of_add {t u : Tally} {s : Stat} {n : Int} (h : t.add s n = .ok u) :
    int64.Holds (t.get s + n) := by
  obtain ⟨k, hk, -⟩ := bind_eq_ok h
  exact (add_eq_ok hk).2

namespace Accounts
variable {m : Match} {cs : List Credit}

/-- A credit that is counted for a side leaves its total in range. -/
theorem holds_of_count (h : m.Accounts cs) {c : Credit} (hside : c.side.Counts)
    (hcount : (m.count c).2 = .ok ()) : int64.Holds (balance cs c.side c.stat + c.amount) := by
  cases c with
  | team t s n =>
    simp only [Match.count, h.tally_team] at hcount
    split at hcount
    next tally hadd =>
      have hholds := Tally.holds_of_add hadd
      rw [Tally.get_of] at hholds
      exact hholds
    next => cases hcount
  | player p s n =>
    have hp : p.steamId.Valid := hside
    simp only [Match.count, if_pos hp, h.tally_enroll hp] at hcount
    split at hcount
    next tally hadd =>
      have hholds := Tally.holds_of_add hadd
      rw [Tally.get_of] at hholds
      exact hholds
    next => cases hcount

theorem modest_of_count (h : m.Accounts cs) (hcs : Modest cs) {c : Credit} (hc : 0 ≤ c.amount)
    (hcount : (m.count c).2 = .ok ()) : Modest (cs ++ [c]) where
  nonneg d hd := by
    rcases List.mem_append.1 hd with hd | hd
    · exact hcs.nonneg d hd
    · cases List.mem_singleton.1 hd
      exact hc
  fits side hside s := by
    have hbefore := hcs.fits side hside s
    rw [balance_append, balance_cons, balance_nil, Int.add_zero]
    split
    next hcredit =>
      obtain ⟨rfl, rfl⟩ := hcredit
      exact (h.holds_of_count hside hcount).2
    next => simpa using hbefore

theorem modest_of_countAll {ds : List Credit} (h : m.Accounts cs) (hcs : Modest cs)
    (hds : ∀ d ∈ ds, 0 ≤ d.amount) (hcount : (m.countAll ds).2 = .ok ()) : Modest (cs ++ ds) := by
  induction ds generalizing m cs with
  | nil => simpa using hcs
  | cons d ds ih =>
    have happ : cs ++ d :: ds = cs ++ [d] ++ ds := by simp
    rw [Match.countAll] at hcount
    split at hcount
    next m₁ hd =>
      have hmodest : Modest (cs ++ [d]) :=
        h.modest_of_count hcs (hds d (by simp)) (by rw [hd])
      obtain ⟨m₁', hd', h₁⟩ := h.count hmodest
      rw [hd] at hd'
      cases hd'
      rw [happ]
      exact ih h₁ hmodest (fun c hc => hds c (by simp [hc])) hcount
    next => cases hcount

end Accounts

theorem nonneg_creditsFor (e : Event) : ∀ c ∈ creditsFor e, 0 ≤ c.amount := by
  cases ht : isTaken e with
  | true => exact (counts_creditsFor ht).nonneg
  | false => simp [creditsFor_of_not_taken ht]

/-- An event does not overflow exactly if its credits leave all totals in range. -/
theorem Accounts.apply_iff {m : Match} {cs : List Credit} {e : Event} (h : m.Accounts cs)
    (hcs : Modest cs) (hown : e.origin.id = m.server.id) :
    (m.apply e).2 ≠ .overflowed .sum ↔ Modest (cs ++ creditsFor e) := by
  refine ⟨fun hno => ?_, fun hfit => (h.apply hown hfit).2.1⟩
  have hnonneg := nonneg_creditsFor e
  unfold Match.apply at hno
  rw [if_neg (not_not.2 hown)] at hno
  unfold creditsFor at hnonneg ⊢
  cases he : effect e with
  | error cause => simpa using hcs
  | ok eff =>
    rw [he] at hno hnonneg
    cases eff with
    | credit ds =>
      refine h.modest_of_countAll hcs hnonneg ?_
      rcases hcount : m.countAll ds with ⟨m', result⟩
      cases result with
      | ok _ => rfl
      | error o => simp [perform, hcount] at hno
    | rename map => simpa using hcs
    | openRound startedAt => simpa using hcs
    | closeRound endedAt winner score => simpa using hcs

def liveCredits (own : List Step) : List Credit :=
  ((current own).map (·.event)).flatMap creditsFor

structure Booked (own : List Step) : Prop where
  modest : Modest (liveCredits own)
  accounts : ∀ m, live? own = some m → m.Accounts (liveCredits own)

theorem modest_nil : Modest [] where
  nonneg := nofun
  fits side _ s := by
    rw [balance_nil]
    decide

theorem creditsFor_of_no_share {e : Event} (h : ∀ s, share? e s = none) : creditsFor e = [] := by
  cases ht : isTaken e with
  | false => exact creditsFor_of_not_taken ht
  | true =>
    have hcounts := counts_creditsFor ht
    generalize creditsFor e = cs at hcounts
    cases hcounts with
    | nothing _ => rfl
    | @one p s n hn hone => simpa [hone] using h s
    | kill hkill => simpa [hkill] using h .kills

theorem share?_of_isTerminal {s : Step} (h : s.isTerminal = true) (r : Stat) :
    share? s.event r = none := by
  unfold Step.isTerminal at h
  cases hk : s.event.kind <;> rw [hk] at h <;> cases h <;> cases r <;> simp [share?, hk]

theorem share?_of_map? {s : Step} {map : String} (h : s.map? = some map) (r : Stat) :
    share? s.event r = none := by
  unfold Step.map? at h
  split at h
  next hk hp => cases r <;> simp [share?, hk]
  next => cases h

theorem booked_nil : Booked [] := ⟨modest_nil, nofun⟩

/-- The credits of a terminal step are none, and those of any other are added to the live ones. -/
theorem modest_next {own : List Step} {s : Step} {m : Match} (h : live? own = some m)
    (hown : Modest (liveCredits own)) (hnext : Modest (liveCredits (own ++ [s]))) :
    Modest (liveCredits own ++ creditsFor s.event) := by
  cases ht : s.isTerminal with
  | true =>
    rw [creditsFor_of_no_share (share?_of_isTerminal ht), List.append_nil]
    exact hown
  | false =>
    cases hc : current own with
    | nil =>
      rw [live?_eq_none_iff.2 hc] at h
      cases h
    | cons o since => simpa [liveCredits, current_concat_of_cons hc ht, hc] using hnext

namespace Booked
variable {own : List Step} {s : Step}

theorem concat (h : Booked own)
    (hserver : ∀ m, live? own = some m → s.event.origin.id = m.server.id)
    (hmodest : ∀ m, live? own = some m → Modest (liveCredits own ++ creditsFor s.event)) :
    Booked (own ++ [s]) := by
  cases ht : s.isTerminal with
  | true =>
    refine ⟨?_, fun m hm => ?_⟩
    · rw [liveCredits, current_concat_terminal own ht]
      exact modest_nil
    · rw [live?_concat_terminal own ht] at hm
      cases hm
  | false =>
    cases hc : current own with
    | nil =>
      have hlive := live?_concat_of_none (s := s) (live?_eq_none_iff.2 hc)
      have hcredits : liveCredits (own ++ [s]) = [] := by
        rw [liveCredits, current_concat_of_nil hc ht]
        cases hmap : s.map? with
        | none => rfl
        | some map => simp [creditsFor_of_no_share (share?_of_map? hmap)]
      refine ⟨by rw [hcredits]; exact modest_nil, fun m hm => ?_⟩
      rw [hlive] at hm
      obtain ⟨map, -, rfl⟩ := Option.map_eq_some_iff.1 hm
      rw [hcredits]
      exact accounts_start ..
    | cons o since =>
      have hcredits : liveCredits (own ++ [s]) = liveCredits own ++ creditsFor s.event := by
        simp [liveCredits, current_concat_of_cons hc ht, hc]
      obtain ⟨m, hm⟩ : ∃ m, live? own = some m := by
        rw [← Option.ne_none_iff_exists', Ne, live?_eq_none_iff, hc]
        nofun
      have hfit := hmodest m hm
      obtain ⟨haccounts, hno, -⟩ := (h.accounts m hm).apply (hserver m hm) hfit
      refine ⟨by rw [hcredits]; exact hfit, fun m' hm' => ?_⟩
      rw [live?_concat_of_some hm ht, absorb_singleton hno] at hm'
      cases hm'
      rw [hcredits]
      exact haccounts

end Booked

theorem server_of_live {server : Int} {before : List Step} {m : Match}
    (h : live? (ofServer server before) = some m) : m.server.id = server := by
  cases hc : current (ofServer server before) with
  | nil =>
    rw [live?_eq_none_iff.2 hc] at h
    cases h
  | cons o since =>
    obtain ⟨pre, hown, -, -⟩ := eq_append_of_current hc
    have ho : o.server = server := by
      have hmem : o ∈ ofServer server before := by simp [hown]
      simpa [ofServer] using (List.mem_filter.1 hmem).2
    rw [live?, hc] at h
    obtain ⟨first, hfirst, rfl⟩ := Option.map_eq_some_iff.1 h
    obtain ⟨map, -, rfl⟩ := Option.map_eq_some_iff.1 hfirst
    rw [(sameMatch_absorb _ _).server]
    exact ho

/-- Nothing overflows exactly if the credits of every live match leave all totals in range. -/
theorem fits_iff_modest {steps : List Step} :
    Fits steps ↔ ∀ before after, steps = before ++ after →
      ∀ server, Modest (liveCredits (ofServer server before)) := by
  -- either side says that every step of a live match is modest, one step at a time
  have hbooked : (∀ before s after, steps = before ++ s :: after →
      Booked (ofServer s.server before) → ∀ m, live? (ofServer s.server before) = some m →
        Modest (liveCredits (ofServer s.server before) ++ creditsFor s.event)) →
      ∀ before after, steps = before ++ after → ∀ server, Booked (ofServer server before) := by
    intro hstep before
    induction before using List.reverseRecOn with
    | nil => exact fun _ _ _ => booked_nil
    | append_singleton before s ih =>
      intro after heq server
      have heq' : steps = before ++ s :: after := by simp [heq]
      by_cases hs : s.server = server
      · subst hs
        rw [ofServer_concat_self]
        have h := ih _ heq' s.server
        exact h.concat (fun m hm => (server_of_live hm).symm) (hstep before s after heq' h)
      · rw [ofServer_concat_ne hs]
        exact ih _ heq' server
  constructor
  · intro hfit before after heq server
    refine (hbooked (fun before s after heq h m hm => ?_) before after heq server).modest
    exact ((h.accounts m hm).apply_iff h.modest (server_of_live hm).symm).1
      (hfit before s after heq m hm)
  · intro hall before s after heq m hm
    have hnext : ∀ before s after, steps = before ++ s :: after →
        ∀ m, live? (ofServer s.server before) = some m →
        Modest (liveCredits (ofServer s.server before) ++ creditsFor s.event) := by
      intro before s after heq m hm
      refine modest_next hm (hall before _ heq s.server) ?_
      rw [← ofServer_concat_self]
      exact hall (before ++ [s]) after (by simp [heq]) s.server
    have h := hbooked (fun before s after heq _ => hnext before s after heq) before _ heq s.server
    exact ((h.accounts m hm).apply_iff h.modest (server_of_live hm).symm).2
      (hnext before s after heq m hm)

theorem totalsFit_iff_modest {es : List Event} :
    TotalsFit es ↔ Modest (es.flatMap creditsFor) := by
  refine ⟨modest_credits, fun h side hside s => ?_⟩
  rw [← balance_credits]
  exact h.fits side hside s

/-- No damage and no healing of a team, or of a player with a valid steam id, leaves its range. -/
def AmountsFit (es : List Event) : Prop :=
  ∀ side : Side, side.Counts → total (es.filter isTaken) side .damage ≤ int64.high ∧
    total (es.filter isTaken) side .healing ≤ int64.high

theorem length_shares_le (es : List Event) (side : Side) (s : Stat) :
    (shares es side s).length ≤ es.length :=
  Nat.le_trans (List.length_filter_le ..) (List.length_filterMap_le ..)

/-- The totals that are numbers of events have room for all events there can be. -/
theorem totalsFit_iff_amountsFit {es : List Event} (hlen : es.length < Nat.pow 2 31) :
    TotalsFit es ↔ AmountsFit es := by
  refine ⟨fun h side hside => ⟨h side hside .damage, h side hside .healing⟩,
    fun h side hside s => ?_⟩
  by_cases hd : s = .damage
  · exact hd ▸ (h side hside).1
  · by_cases hh : s = .healing
    · exact hh ▸ (h side hside).2
    · rw [total_eq_length hd hh]
      have hshares := length_shares_le (es.filter isTaken) side s
      have hfilter : (es.filter isTaken).length ≤ es.length := List.length_filter_le ..
      have hroom : (Nat.pow 2 31 : Int) ≤ int64.high := by decide
      omega

theorem length_current_le (server : Int) (before : List Step) :
    (current (ofServer server before)).length ≤ before.length :=
  calc
    (current (ofServer server before)).length
      ≤ ((ofServer server before).rtakeWhile (!·.isTerminal)).length :=
        (List.dropWhile_sublist _).length_le
    _ ≤ (ofServer server before).length := (List.rtakeWhile_suffix _ _).length_le
    _ ≤ before.length := List.length_filter_le ..

/-- Rounds whose scores are the points of their winners. -/
structure Scored (m : Match) (n : Nat) : Prop where
  few : m.rounds.length ≤ n
  points : ∀ r ∈ m.rounds, r.score = pointsOf r.winner

theorem payload_of_closeRound {e : Event} {endedAt : Stamp} {winner : Option Team} {score : Score}
    (h : effect e = .ok (.closeRound endedAt winner score)) :
    e.payload = .roundEnd winner score := by
  unfold effect at h
  split at h
  next => cases h
  next => cases h
  next hp =>
    cases h
    exact hp
  next =>
    obtain ⟨attacker, -, h⟩ := bind_eq_ok h
    cases h
  next =>
    obtain ⟨p, -, h⟩ := bind_eq_ok h
    obtain ⟨n, -, h⟩ := bind_eq_ok h
    cases h
  next =>
    obtain ⟨p, -, h⟩ := bind_eq_ok h
    obtain ⟨n, -, h⟩ := bind_eq_ok h
    cases h
  next =>
    obtain ⟨p, -, h⟩ := bind_eq_ok h
    cases h
  all_goals cases h

theorem score_of_isReported {e : Event} {winner : Option Team} {score : Score}
    (h : e.IsReported) (hp : e.payload = .roundEnd winner score) : score = pointsOf winner := by
  obtain ⟨now, line, c, t, hc, he⟩ := h
  obtain ⟨time, report, rfl, hform⟩ := classify_form hc
  rw [he] at hp
  cases report with
  | error failure => cases hp
  | ok content =>
    have hcontent := hform content rfl
    cases hcontent with
    | roundEnd w as =>
      cases hp
      rfl
    | _ => cases hp

namespace Scored
variable {m : Match} {n : Nat}

theorem start (id : MatchId) (server : Server) (map : String) (createdAt : Instant) (n : Nat) :
    Scored (.start id server map createdAt) n :=
  ⟨Nat.zero_le n, nofun⟩

theorem succ (h : Scored m n) : Scored m (n + 1) := ⟨Nat.le_succ_of_le h.few, h.points⟩

theorem perform {eff : Effect} (h : Scored m n)
    (hscore : ∀ endedAt winner score, eff = .closeRound endedAt winner score →
      score = pointsOf winner) : Scored (m.perform eff).1 (n + 1) := by
  cases eff with
  | rename map => exact ⟨h.succ.few, h.points⟩
  | openRound startedAt => exact ⟨h.succ.few, h.points⟩
  | credit cs =>
    obtain ⟨teams, players, heq⟩ := exists_countAll m cs
    rw [Match.perform, heq]
    exact ⟨h.succ.few, h.points⟩
  | closeRound endedAt winner score =>
    refine ⟨by simpa [Match.perform] using h.few, fun r hr => ?_⟩
    rcases List.mem_append.1 hr with hr | hr
    · exact h.points r hr
    · cases List.mem_singleton.1 hr
      exact hscore endedAt winner score rfl

theorem absorb {e : Event} (h : Scored m n) (he : e.IsReported) :
    Scored (m.absorb [e]) (n + 1) := by
  obtain heq | ⟨eff, heff, heq⟩ := absorb_eq_or m e
  · rw [heq]
    exact h.succ
  · rw [heq]
    refine h.perform fun endedAt winner score hclose => ?_
    rw [hclose] at heff
    exact score_of_isReported he (payload_of_closeRound heff)

end Scored

namespace Book

/-- What is sealed by steps of lines has one round for a step at most, and each score is that of its
winner. -/
theorem scored_sealedBy {b : Book} {n : Nat} {steps : List Step}
    (hb : ∀ server m, b.live.get? server = some m → Scored m n)
    (hlines : ∀ s ∈ steps, s.event.IsReported) :
    ∀ result ∈ b.sealedBy steps, ∃ m, Scored m (n + steps.length) ∧ m.rounds = result.rounds := by
  induction steps generalizing b n with
  | nil => nofun
  | cons s rest ih =>
    have hs := hlines s (by simp)
    have hlen : n + (s :: rest).length = n + 1 + rest.length := by simp; omega
    unfold Book.sealedBy
    split
    next t b' hhandle =>
      obtain ⟨hb', hsealed⟩ := (handles_of_handle hhandle).forall_live hb (fun m hm => hm.succ)
        (fun _ => Scored.start ..) fun m hm => hm.absorb hs
      intro result hresult
      rcases List.mem_append.1 hresult with hnow | hlater
      · obtain ⟨m, hm, rfl⟩ := hsealed result (Option.mem_toList.1 hnow)
        exact ⟨m, ⟨by have := hm.few; omega, hm.points⟩, rfl⟩
      · rw [hlen]
        exact ih hb' (fun x hx => hlines x (by simp [hx])) result hlater
    next => nofun

theorem handle_fits {b b' : Book} {s : Step} {t : Transition} {m : Match}
    (h : b.handle s.fresh s.now s.event = .ok (t, b')) (hlive : b.live.get? s.server = some m) :
    (m.apply s.event).2 ≠ .overflowed .sum := by
  intro hover
  rw [handle_of_overflow hlive hover] at h
  cases h

theorem fits_of_run {b b' : Book} {before steps : List Step} {ts : List Transition}
    (hb : b.Tracks before) (h : b.run steps = .ok (ts, b')) :
    ∀ mid s after, steps = mid ++ s :: after →
      ∀ m, live? (ofServer s.server (before ++ mid)) = some m →
        (m.apply s.event).2 ≠ .overflowed .sum := by
  induction steps generalizing b before ts b' with
  | nil =>
    intro mid s after heq
    simp at heq
  | cons s rest ih =>
    obtain ⟨⟨t, b₁⟩, hstep, h⟩ := bind_eq_ok h
    obtain ⟨⟨ts', b₂⟩, hrest, hret⟩ := bind_eq_ok h
    cases hret
    intro mid s' after heq m hm
    cases mid with
    | nil =>
      obtain ⟨rfl, rfl⟩ := List.cons.inj heq
      rw [List.append_nil] at hm
      exact handle_fits hstep ((hb _).trans hm)
    | cons x mid =>
      obtain ⟨rfl, rfl⟩ := List.cons.inj heq
      obtain ⟨-, hb₁⟩ := (handles_of_handle hstep).tracks hb
      exact ih hb₁ hrest mid s' after rfl m (by simpa using hm)

/-- A run succeeds exactly if nothing overflows. -/
theorem exists_run_iff {steps : List Step} :
    (∃ ts b, empty.run steps = .ok (ts, b)) ↔ Fits steps := by
  constructor
  · rintro ⟨ts, b, h⟩ before s after heq m hm
    exact fits_of_run tracks_empty h before s after heq m (by simpa using hm)
  · intro h
    obtain ⟨b, hrun, -⟩ := run_empty h
    exact ⟨_, b, hrun⟩

end Book

/-- Points of at most one a round add up. -/
theorem exists_total {side : Score → Int} {rs : List Round} {n : Int}
    (hside : ∀ r ∈ rs, 0 ≤ side r.score ∧ side r.score ≤ 1) (hlow : 0 ≤ n)
    (hhigh : n + rs.length ≤ int32.high) :
    ∃ k, rs.foldlM (fun n r => int32.add n (side r.score)) n = .ok k := by
  induction rs generalizing n with
  | nil => exact ⟨n, rfl⟩
  | cons r rs ih =>
    obtain ⟨h0, h1⟩ := hside r (by simp)
    rw [List.length_cons] at hhigh
    have hzero : int32.low ≤ 0 := by decide
    have hadd : int32.add n (side r.score) = .ok (n + side r.score) :=
      if_pos ⟨by omega, by omega⟩
    obtain ⟨k, hk⟩ := ih (n := n + side r.score) (fun x hx => hside x (by simp [hx])) (by omega)
      (by omega)
    exact ⟨k, by rw [List.foldlM_cons, hadd]; exact hk⟩

theorem red_pointsOf (winner : Option Team) :
    0 ≤ (pointsOf winner).red ∧ (pointsOf winner).red ≤ 1 := by
  rcases winner with _ | _ | _ | _ | _ <;> decide

theorem blu_pointsOf (winner : Option Team) :
    0 ≤ (pointsOf winner).blu ∧ (pointsOf winner).blu ≤ 1 := by
  rcases winner with _ | _ | _ | _ | _ <;> decide

theorem Scored.exists_total {m : Match} {n : Nat} (h : Scored m n) (hn : n < Nat.pow 2 31)
    {side : Score → Int}
    (hside : ∀ winner, 0 ≤ side (pointsOf winner) ∧ side (pointsOf winner) ≤ 1) :
    ∃ k, m.rounds.foldlM (fun n r => int32.add n (side r.score)) 0 = .ok k := by
  refine Match.exists_total (fun r hr => ?_) (Int.le_refl 0) ?_
  · rw [h.points r hr]
    exact hside r.winner
  · have hfew := h.few
    have hroom : (Nat.pow 2 31 : Int) = int32.high + 1 := by decide
    omega

/-- Events of fewer than two to the thirty-first lines are handled without an overflow exactly if,
after each of them, damage and healing in all live matches are in range. The scores of every sealed
match add up in any case, and so it has an announcement. -/
theorem run_within_range {steps : List Step} (hlines : ∀ s ∈ steps, s.event.IsReported)
    (hlen : steps.length < Nat.pow 2 31) :
    ((∃ ts b, Book.empty.run steps = .ok (ts, b)) ↔
      ∀ before after, steps = before ++ after → ∀ server,
        AmountsFit ((current (ofServer server before)).map (·.event))) ∧
    ∀ result ∈ Book.empty.sealedBy steps,
      (∃ red, result.redScore = .ok red) ∧ (∃ blu, result.bluScore = .ok blu) ∧
      ∀ now dated externalUrl, ∃ e, result.embed now dated externalUrl = .ok e := by
  constructor
  · rw [Book.exists_run_iff, fits_iff_modest]
    refine forall₃_congr fun before after heq => forall_congr' fun server => ?_
    have hcurrent := length_current_le server before
    have hshort : ((current (ofServer server before)).map (·.event)).length < Nat.pow 2 31 := by
      rw [heq, List.length_append] at hlen
      rw [List.length_map]
      omega
    rw [← totalsFit_iff_amountsFit hshort, totalsFit_iff_modest]
    rfl
  · intro result hresult
    obtain ⟨m, hm, hrounds⟩ := Book.scored_sealedBy (b := .empty) (n := 0) nofun hlines result
      hresult
    rw [Nat.zero_add] at hm
    obtain ⟨red, hred⟩ := hm.exists_total hlen red_pointsOf
    obtain ⟨blu, hblu⟩ := hm.exists_total hlen blu_pointsOf
    rw [hrounds] at hred hblu
    exact ⟨⟨red, hred⟩, ⟨blu, hblu⟩, Sealed.exists_embed hred hblu⟩

def stepsOf (lines : List String) : List Step :=
  lines.filterMap fun line =>
    match classify ⟨0, 0⟩ ⟨1, "s"⟩ line with
    | .ok c => some ⟨⟨0⟩, ⟨0⟩, c.event⟩
    | .error _ => none

theorem isReported_of_stepsOf (lines : List String) : ∀ s ∈ stepsOf lines, s.event.IsReported := by
  intro s hs
  obtain ⟨line, -, hline⟩ := List.mem_filterMap.1 hs
  split at hline
  next c hc =>
    cases hline
    exact ⟨⟨0, 0⟩, line, c, c.event.occurredAt, by rw [classify_origin hc, hc], rfl⟩
  next => cases hline

/-- The largest damage there can be in one match, in two parts, and a round. -/
def fullDamage : List Step :=
  stepsOf ["L 03/01/2024 - 20:00:01: Loading map \"ctf_2fort\"",
    "L 03/01/2024 - 20:00:02: \"A<2><[U:1:1]><Red>\" triggered \"damage\" " ++
      "(damage \"9223372036854775806\")",
    "L 03/01/2024 - 20:00:03: \"A<2><[U:1:1]><Red>\" triggered \"damage\" (damage \"1\")",
    "L 03/01/2024 - 20:00:04: World triggered \"Round_Win\" (winner \"Red\")",
    "L 03/01/2024 - 20:00:05: World triggered \"Game_Over\" reason \"limit\""]

theorem run_within_range_fullDamage :
    (∀ s ∈ fullDamage, s.event.IsReported) ∧ fullDamage.length < Nat.pow 2 31 ∧
      AmountsFit ((current (ofServer 1 (fullDamage.take 4))).map (·.event)) ∧
      ∃ result ∈ Book.empty.sealedBy fullDamage, ∃ red, result.redScore = .ok red := by
  have hlines : ∀ s ∈ fullDamage, s.event.IsReported := isReported_of_stepsOf _
  have hlen : fullDamage.length < Nat.pow 2 31 :=
    Nat.lt_of_le_of_lt (List.length_filterMap_le ..) (by decide)
  obtain ⟨hiff, hscores⟩ := run_within_range hlines hlen
  have hrun : (Book.empty.run fullDamage).map
      (fun x => (x.1.filterMap Transition.sealed?).length) = .ok 1 := by
    decide +kernel
  cases hresult : Book.empty.run fullDamage with
  | error o =>
    rw [hresult] at hrun
    cases hrun
  | ok x =>
    rw [hresult] at hrun
    obtain ⟨result, hsealed⟩ := List.length_eq_one_iff.1 (Except.ok.inj hrun)
    have hmem : result ∈ Book.empty.sealedBy fullDamage := by
      rw [Book.sealedBy_of_run hresult, hsealed]
      exact List.mem_singleton_self result
    refine ⟨hlines, hlen, ?_, result, hmem, (hscores result hmem).1⟩
    exact hiff.1 ⟨x.1, x.2, hresult⟩ _ _ (List.take_append_drop 4 fullDamage).symm 1

/-- A player does the largest damage of one line twice. -/
def twiceTheDamage : List Step :=
  stepsOf ["L 03/01/2024 - 20:00:01: Loading map \"ctf_2fort\"",
    "L 03/01/2024 - 20:00:02: \"A<2><[U:1:1]><Red>\" triggered \"damage\" " ++
      "(damage \"9223372036854775807\")",
    "L 03/01/2024 - 20:00:03: \"A<2><[U:1:1]><Red>\" triggered \"damage\" " ++
      "(damage \"9223372036854775807\")"]

/-- The sum of two amounts of lines can leave its range. -/
theorem run_twiceTheDamage :
    (∀ s ∈ twiceTheDamage, s.event.IsReported) ∧ twiceTheDamage.length < Nat.pow 2 31 ∧
      Book.empty.run twiceTheDamage = .error .sum := by
  refine ⟨isReported_of_stepsOf _, Nat.lt_of_le_of_lt (List.length_filterMap_le ..) (by decide), ?_⟩
  have hrun : (Book.empty.run twiceTheDamage).isOk = false := by decide +kernel
  cases hresult : Book.empty.run twiceTheDamage with
  | error o => rfl
  | ok x =>
    rw [hresult] at hrun
    cases hrun

end Match
end Moderation
