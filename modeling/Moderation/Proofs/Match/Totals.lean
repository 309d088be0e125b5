import Moderation.Proofs.Match.Credits
import Moderation.Proofs.Table
/-!
The rows of a match as sums over its history. Each total of a team or player is what the accepted
events add up to, and a player's row has the name and team of the last event that counted for it.
-/
namespace Moderation.Match
open Number Time

def Stat.all : List Stat := [kills, deaths, damage, healing, charges, drops]

/-- Who an accepted event counts for in a statistic, and how much. -/
def share? (e : Event) : Stat → Option (Player × Int)
  | .kills => match e.kind with
    | .kill => e.actor.map (·, 1)
    | _ => none
  | .deaths => match e.kind, e.payload with
    | .kill, .kill victim _ => some (victim, 1)
    | _, _ => none
  | .damage => match e.kind, e.payload with
    | .damage, .damage _ amount _ => e.actor.map (·, amount)
    | _, _ => none
  | .healing => match e.kind, e.payload with
    | .heal, .heal _ amount => e.actor.map (·, amount)
    | _, _ => none
  | .charges => match e.kind with
    | .chargeDeployed => e.actor.map (·, 1)
    | _ => none
  | .drops => match e.kind, e.payload with
    | .medicDeath, .medicDeath medic true => some (medic, 1)
    | _, _ => none

def credited (e : Event) : List Player := Stat.all.filterMap fun s => (share? e s).map (·.1)

def Side.has : Side → Player → Bool
  | .team t, p => p.team = t
  | .player id, p => p.steamId = id

def shares (es : List Event) (side : Side) (s : Stat) : List (Player × Int) :=
  (es.filterMap (share? · s)).filter (side.has ·.1)

def total (es : List Event) (side : Side) (s : Stat) : Int := sum ((shares es side s).map (·.2))

/-- No total of a team, or of a player with a valid steam id, leaves its range. -/
def TotalsFit (es : List Event) : Prop :=
  ∀ side : Side, side.Counts → ∀ s, total (es.filter isTaken) side s ≤ int64.high

inductive Counts (e : Event) : List Credit → Prop
  | kill {attacker victim : Player} (h : ∀ s, share? e s =
      if s = .kills then some (attacker, 1) else if s = .deaths then some (victim, 1) else none) :
    Counts e [.team attacker.team .kills 1, .team victim.team .deaths 1,
      .player attacker .kills 1, .player victim .deaths 1]
  | one {p : Player} {s : Stat} {n : Int} (hn : 0 ≤ n)
      (h : ∀ r, share? e r = if r = s then some (p, n) else none) : Counts e (creditsOf p s n)
  | nothing (h : ∀ s, share? e s = none) : Counts e []

theorem actor_eq_ok {e : Event} {p : Player} (h : actor e = .ok p) : e.actor = some p := by
  unfold actor at h
  split at h
  next q hq =>
    cases h
    exact hq
  next => cases h

theorem natural_eq_ok {e : Event} {n m : Int} (h : natural e n = .ok m) : 0 ≤ n ∧ m = n := by
  unfold natural at h
  split at h
  next => cases h
  next hn =>
    cases h
    exact ⟨Int.not_lt.1 hn, rfl⟩

/-- What an event that is not rejected counts for. -/
theorem counts_of_effect {e : Event} {eff : Effect} (h : effect e = .ok eff) :
    Counts e (match eff with | .credit cs => cs | _ => []) := by
  unfold effect at h
  split at h
  next hk hp =>
    cases h
    exact .nothing fun s => by cases s <;> simp [share?, hk]
  next hk =>
    cases h
    exact .nothing fun s => by cases s <;> simp [share?, hk]
  next hk hp =>
    cases h
    exact .nothing fun s => by cases s <;> simp [share?, hk]
  next victim weapon hk hp =>
    obtain ⟨attacker, ha, h⟩ := bind_eq_ok h
    cases h
    exact .kill fun s => by cases s <;> simp [share?, hk, hp, actor_eq_ok ha]
  next victim amount weapon hk hp =>
    obtain ⟨p, ha, h⟩ := bind_eq_ok h
    obtain ⟨n, hn, hret⟩ := bind_eq_ok h
    obtain ⟨h0, rfl⟩ := natural_eq_ok hn
    cases hret
    exact .one h0 fun s => by cases s <;> simp [share?, hk, hp, actor_eq_ok ha]
  next target amount hk hp =>
    obtain ⟨p, ha, h⟩ := bind_eq_ok h
    obtain ⟨n, hn, hret⟩ := bind_eq_ok h
    obtain ⟨h0, rfl⟩ := natural_eq_ok hn
    cases hret
    exact .one h0 fun s => by cases s <;> simp [share?, hk, hp, actor_eq_ok ha]
  next hk =>
    obtain ⟨p, ha, h⟩ := bind_eq_ok h
    cases h
    exact .one (by decide) fun s => by cases s <;> simp [share?, hk, actor_eq_ok ha]
  next medic ubercharge hk hp =>
    cases h
    cases ubercharge with
    | false => exact .nothing fun s => by cases s <;> simp [share?, hk, hp]
    | true => exact .one (by decide) fun s => by cases s <;> simp [share?, hk, hp]
  all_goals cases h
  -- what is left are the kinds without statistics
  refine .nothing fun s => ?_
  cases hk : e.kind <;> cases s <;> simp_all [share?]

theorem counts_creditsFor {e : Event} (h : isTaken e = true) : Counts e (creditsFor e) := by
  unfold isTaken at h
  unfold creditsFor
  cases he : effect e with
  | error cause =>
    rw [he] at h
    cases h
  | ok eff =>
    have hcounts := counts_of_effect he
    cases eff <;> exact hcounts

theorem creditsFor_of_not_taken {e : Event} (h : isTaken e = false) : creditsFor e = [] := by
  unfold isTaken at h
  unfold creditsFor
  cases he : effect e with
  | error cause => rfl
  | ok eff =>
    rw [he] at h
    cases h

theorem total_append (es fs : List Event) (side : Side) (s : Stat) :
    total (es ++ fs) side s = total es side s + total fs side s := by
  simp only [total, shares, List.filterMap_append, List.filter_append, List.map_append, sum_append]

theorem total_singleton (e : Event) (side : Side) (s : Stat) :
    total [e] side s = ((share? e s).map fun x => if side.has x.1 then x.2 else 0).getD 0 := by
  cases hs : share? e s with
  | none => simp [total, shares, sum, hs]
  | some x => by_cases hx : side.has x.1 <;> simp [total, shares, sum, hs, hx]

namespace Counts
variable {e : Event} {cs : List Credit}

theorem balance_eq (h : Counts e cs) (side : Side) (s : Stat) :
    balance cs side s = total [e] side s := by
  rw [total_singleton]
  cases h with
  | nothing h =>
    rw [h s]
    rfl
  | @one p r n hn h =>
    rw [h s]
    by_cases hs : s = r
    · subst hs
      cases side <;>
        simp [creditsOf, balance_cons, balance_nil, Credit.side, Credit.stat, Credit.amount,
          Side.has]
    · have hr : r ≠ s := Ne.symm hs
      cases side <;> simp [creditsOf, balance_cons, balance_nil, Credit.stat, hs, hr]
  | @kill attacker victim h =>
    rw [h s]
    cases side <;> cases s <;>
      simp [balance_cons, balance_nil, Credit.side, Credit.stat, Credit.amount, Side.has]

theorem nonneg (h : Counts e cs) : ∀ c ∈ cs, 0 ≤ c.amount := by
  cases h with
  | nothing h => simp
  | one hn h => simpa [creditsOf, Credit.amount] using hn
  | kill h => simp [Credit.amount]

theorem players (h : Counts e cs) : cs.filterMap (·.player?) = credited e := by
  cases h with
  | nothing h => simp [credited, h]
  | @one p s n hn h => cases s <;> simp [creditsOf, credited, Stat.all, h, Credit.player?]
  | kill h => simp [credited, Stat.all, h, Credit.player?]

theorem any_side (h : Counts e cs) (t : Team) :
    cs.any (·.side = .team t) = (credited e).any (·.team = t) := by
  rw [← h.players]
  cases h with
  | nothing h => rfl
  | one hn h => simp [creditsOf, Credit.side, Credit.player?]
  | kill h => simp [Credit.side, Credit.player?]

end Counts

/-- What a run of events has in credits is what its accepted events count for. -/
theorem balance_credits (es : List Event) (side : Side) (s : Stat) :
    balance (es.flatMap creditsFor) side s = total (es.filter isTaken) side s := by
  induction es with
  | nil => rfl
  | cons e es ih =>
    rw [List.flatMap_cons, balance_append, ih]
    cases ht : isTaken e with
    | true =>
      have hcons : (e :: es).filter isTaken = [e] ++ es.filter isTaken := by simp [ht]
      rw [(counts_creditsFor ht).balance_eq, hcons, total_append]
    | false =>
      have hskip : (e :: es).filter isTaken = es.filter isTaken := by simp [ht]
      rw [creditsFor_of_not_taken ht, hskip, balance_nil, Int.zero_add]

theorem players_credits (es : List Event) :
    (es.flatMap creditsFor).filterMap (·.player?) = (es.filter isTaken).flatMap credited := by
  induction es with
  | nil => rfl
  | cons e es ih =>
    rw [List.flatMap_cons, List.filterMap_append, ih]
    cases ht : isTaken e with
    | true => simp [ht, (counts_creditsFor ht).players]
    | false => simp [ht, creditsFor_of_not_taken ht]

theorem any_credits (es : List Event) (t : Team) :
    (es.flatMap creditsFor).any (·.side = .team t) =
      ((es.filter isTaken).flatMap credited).any (·.team = t) := by
  induction es with
  | nil => rfl
  | cons e es ih =>
    rw [List.flatMap_cons, List.any_append, ih]
    cases ht : isTaken e with
    | true => simp only [List.filter_cons, ht, if_true, List.flatMap_cons, List.any_append,
        (counts_creditsFor ht).any_side]
    | false => simp [ht, creditsFor_of_not_taken ht]

theorem modest_credits {es : List Event} (h : TotalsFit es) :
    Modest (es.flatMap creditsFor) where
  nonneg c hc := by
    obtain ⟨e, -, hce⟩ := List.mem_flatMap.1 hc
    cases ht : isTaken e with
    | true => exact (counts_creditsFor ht).nonneg c hce
    | false =>
      rw [creditsFor_of_not_taken ht] at hce
      cases hce
  fits side hside s := by
    rw [balance_credits]
    exact h side hside s

theorem sum_filter_le {xs : List (Player × Int)} (h : ∀ x ∈ xs, 0 ≤ x.2) (side : Side) :
    sum ((xs.filter (side.has ·.1)).map (·.2)) ≤ sum (xs.map (·.2)) := by
  induction xs with
  | nil => exact Int.le_refl 0
  | cons x xs ih =>
    have hx := h x (by simp)
    have hxs := ih fun y hy => h y (by simp [hy])
    have hcons : sum ((x :: xs).map (·.2)) = x.2 + sum (xs.map (·.2)) := rfl
    rw [hcons]
    by_cases hside : side.has x.1 = true
    · have hkeep : (x :: xs).filter (side.has ·.1) = x :: xs.filter (side.has ·.1) := by
        simp [hside]
      rw [hkeep]
      change x.2 + sum ((xs.filter (side.has ·.1)).map (·.2)) ≤ x.2 + sum (xs.map (·.2))
      omega
    · have hskip : (x :: xs).filter (side.has ·.1) = xs.filter (side.has ·.1) := by simp [hside]
      rw [hskip]
      omega

theorem Counts.share_nonneg {e : Event} {cs : List Credit} (h : Counts e cs) {s : Stat}
    {x : Player × Int} (hx : share? e s = some x) : 0 ≤ x.2 := by
  cases h with
  | nothing h =>
    rw [h s] at hx
    cases hx
  | one hn h =>
    rw [h s] at hx
    split at hx
    · cases hx
      exact hn
    · cases hx
  | kill h =>
    rw [h s] at hx
    split at hx
    · cases hx
      exact Int.one_nonneg
    · split at hx
      · cases hx
        exact Int.one_nonneg
      · cases hx

/-- Totals fit if those of all players together do. -/
theorem TotalsFit.of_sum {es : List Event}
    (h : ∀ s, sum (((es.filter isTaken).filterMap (share? · s)).map (·.2)) ≤ int64.high) :
    TotalsFit es := by
  intro side _ s
  have hnonneg : ∀ x ∈ (es.filter isTaken).filterMap (share? · s), 0 ≤ x.2 := by
    intro x hx
    obtain ⟨e, he, hshare⟩ := List.mem_filterMap.1 hx
    exact (counts_creditsFor (List.mem_filter.1 he).2).share_nonneg hshare
  exact Int.le_trans (sum_filter_le hnonneg side) (h s)

theorem share_eq_one {e : Event} {s : Stat} {x : Player × Int} (hd : s ≠ .damage)
    (hh : s ≠ .healing) (hx : share? e s = some x) : x.2 = 1 := by
  simp only [share?] at hx
  cases s with
  | damage => exact absurd rfl hd
  | healing => exact absurd rfl hh
  | kills =>
    dsimp only at hx
    split at hx
    · obtain ⟨p, -, rfl⟩ := Option.map_eq_some_iff.1 hx
      rfl
    · cases hx
  | deaths =>
    dsimp only at hx
    split at hx
    · cases hx
      rfl
    · cases hx
  | charges =>
    dsimp only at hx
    split at hx
    · obtain ⟨p, -, rfl⟩ := Option.map_eq_some_iff.1 hx
      rfl
    · cases hx
  | drops =>
    dsimp only at hx
    split at hx
    · cases hx
      rfl
    · cases hx

theorem sum_of_ones {xs : List (Player × Int)} (h : ∀ x ∈ xs, x.2 = 1) :
    sum (xs.map (·.2)) = xs.length := by
  induction xs with
  | nil => rfl
  | cons x xs ih =>
    have hx := h x (by simp)
    have hxs := ih fun y hy => h y (by simp [hy])
    change x.2 + sum (xs.map (·.2)) = ((xs.length + 1 : Nat) : Int)
    omega

/-- Kills, deaths, charges and drops are numbers of events. -/
theorem total_eq_length {s : Stat} (hd : s ≠ .damage) (hh : s ≠ .healing) (es : List Event)
    (side : Side) : total es side s = (shares es side s).length := by
  refine sum_of_ones fun x hx => ?_
  obtain ⟨e, -, he⟩ := List.mem_filterMap.1 (List.mem_of_mem_filter hx)
  exact share_eq_one hd hh he

/-- The rows of a match after events of its own server. -/
theorem finish_totals {es : List Event} (server : Server)
    (hown : ∀ e ∈ es, e.origin.id = server.id) (hfit : TotalsFit es)
    (id : MatchId) (map : String) (createdAt sealedAt : Instant) :
    let fresh := start id server map createdAt
    let m := fresh.after es
    let events := fresh.accepted es
    let players := events.flatMap credited
    let tally (side : Side) : Tally := .of (total events side)
    (∀ before e since, es = before ++ e :: since →
      ((fresh.after before).apply e).2 ≠ .overflowed .sum) ∧
    (∀ t, m.teams.get? t =
      if players.any (·.team = t) then some (tally (.team t)) else none) ∧
    (∀ id, m.players.get? id = if id.Valid then (last? players id).map fun p =>
      ⟨p.name, p.team, tally (.player id)⟩ else none) ∧
    (m.finish sealedAt).teams = (Team.all.filter fun t => players.any (·.team = t)).map
      (fun t => (t, tally (.team t))) ∧
    ((m.finish sealedAt).players.Pairwise fun a b => a.1.word.toNat < b.1.word.toNat) ∧
    (∀ id line, (id, line) ∈ (m.finish sealedAt).players ↔ m.players.get? id = some line) ∧
    ∀ side s, s ≠ .damage → s ≠ .healing →
      total events side s = (shares events side s).length := by
  intro fresh m events players tally
  have hmodest : Modest ([] ++ es.flatMap creditsFor) := modest_credits hfit
  obtain ⟨haccounts, haccepted, hno⟩ :=
    (accounts_start id server map createdAt).after hown hmodest
  rw [List.nil_append] at haccounts
  have hevents : events = es.filter isTaken := haccepted
  have hteams : ∀ t, m.teams.get? t =
      if players.any (·.team = t) then some (tally (.team t)) else none := by
    intro t
    have htally : balance (es.flatMap creditsFor) (.team t) = total events (.team t) := by
      funext s
      rw [balance_credits, hevents]
    rw [haccounts.teams t, any_credits, htally, ← hevents]
  refine ⟨hno, hteams, fun id => ?_, ?_, ?_, fun id line => Table.mem_entries_iff,
    fun side s hd hh => total_eq_length hd hh events side⟩
  · have htally : balance (es.flatMap creditsFor) (.player id) = total events (.player id) := by
      funext s
      rw [balance_credits, hevents]
    rw [haccounts.players id, players_credits, htally, ← hevents]
  · have hentries : m.teams.entries =
        Team.all.filterMap fun t => (m.teams.get? t).map fun tally => (t, tally) :=
      m.teams.entries_eq_filterMap (by decide) fun t => by cases t <;> decide
    change m.teams.entries = _
    rw [hentries, ← List.filterMap_eq_filter, List.map_filterMap]
    refine List.filterMap_congr fun t _ => ?_
    rw [hteams t]
    by_cases hany : players.any (·.team = t) = true
    · rw [if_pos hany, Option.guard, if_pos hany]
      rfl
    · rw [if_neg hany, Option.guard, if_neg hany]
      rfl
  · exact m.players.ordered.imp fun h => by simpa [Key.before] using h

/-- A player kills himself, having changed his name and team, and heals for nothing; a bot does
damage, a damage without a player is rejected, and a medic drops a charge. -/
def skirmish : List Event :=
  let red : Player := ⟨⟨76561197960265729⟩, "a", .red, none⟩
  let blu : Player := ⟨⟨76561197960265729⟩, "b", .blu, none⟩
  let bot : Player := ⟨.none, "bot", .spectator, none⟩
  let event (kind : EventKind) (actor : Option Player) (payload : Payload) : Event :=
    ⟨kind, ⟨1, "s"⟩, actor, ⟨0, 0⟩, payload, .empty⟩
  [event .kill (some red) (.kill blu "w"), event .heal (some red) (.heal none 0),
    event .damage (some bot) (.damage (some red) 5 none), event .damage none (.damage none 7 none),
    event .medicDeath (some bot) (.medicDeath blu true)]

theorem finish_totals_skirmish :
    (∀ e ∈ skirmish, e.origin.id = 1) ∧ TotalsFit skirmish ∧
      let m := (start ⟨0⟩ ⟨1, "s"⟩ "ctf_2fort" ⟨0⟩).after skirmish
      m.teams.get? .red = some ⟨1, 0, 0, 0, 0, 0⟩ ∧ m.teams.get? .blu = some ⟨0, 1, 0, 0, 0, 1⟩ ∧
      m.teams.get? .spectator = some ⟨0, 0, 5, 0, 0, 0⟩ ∧ m.teams.get? .unassigned = none ∧
      m.players.get? ⟨76561197960265729⟩ = some ⟨"b", .blu, ⟨1, 1, 0, 0, 0, 1⟩⟩ ∧
      m.players.get? .none = none := by
  have hown : ∀ e ∈ skirmish, e.origin.id = 1 := by decide
  have hfit : TotalsFit skirmish := .of_sum fun s => by cases s <;> decide
  obtain ⟨-, hteams, hplayers, -⟩ :=
    finish_totals ⟨1, "s"⟩ hown hfit ⟨0⟩ "ctf_2fort" ⟨0⟩ ⟨1⟩
  refine ⟨hown, hfit, ?_, ?_, ?_, ?_, ?_, ?_⟩
  · exact (hteams .red).trans (by decide)
  · exact (hteams .blu).trans (by decide)
  · exact (hteams .spectator).trans (by decide)
  · exact (hteams .unassigned).trans (by decide)
  · exact (hplayers ⟨76561197960265729⟩).trans (by decide)
  · exact (hplayers .none).trans (by decide)

end Moderation.Match
