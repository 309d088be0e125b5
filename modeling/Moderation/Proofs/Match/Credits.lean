import Mathlib.Data.List.Basic
import Moderation.Proofs.Match.Live
/-!
Credits as accounts. The rows of a match are what the credits counted so far add up to, and counting
does not fail as long as these sums stay in range.
-/
namespace Moderation.Match
open Number

def sum (ns : List Int) : Int := ns.foldr (· + ·) 0

theorem sum_append (ms ns : List Int) : sum (ms ++ ns) = sum ms + sum ns := by
  induction ms with
  | nil => simp [sum]
  | cons m ms ih =>
    have hcons : sum (m :: ms ++ ns) = m + sum (ms ++ ns) := rfl
    rw [hcons, ih]
    change m + (sum ms + sum ns) = m + sum ms + sum ns
    omega

theorem sum_nonneg {ns : List Int} (h : ∀ n ∈ ns, 0 ≤ n) : 0 ≤ sum ns := by
  induction ns with
  | nil => exact Int.le_refl 0
  | cons n ns ih =>
    have hn := h n (by simp)
    have hns := ih fun x hx => h x (by simp [hx])
    change 0 ≤ n + sum ns
    omega

theorem add_eq_ok {r : Range} {a b c : Int} (h : r.add a b = .ok c) :
    c = a + b ∧ r.Holds (a + b) := by
  unfold Range.add at h
  split at h
  next hab =>
    cases h
    exact ⟨rfl, hab⟩
  next => cases h

namespace Tally

def of (f : Stat → Int) : Tally :=
  ⟨f .kills, f .deaths, f .damage, f .healing, f .charges, f .drops⟩

theorem get_of (f : Stat → Int) (s : Stat) : (of f).get s = f s := by
  cases s <;> rfl

theorem ext_get {t u : Tally} (h : ∀ s, t.get s = u.get s) : t = u := by
  cases t
  cases u
  simp only [mk.injEq]
  exact ⟨h .kills, h .deaths, h .damage, h .healing, h .charges, h .drops⟩

theorem add_of {f g : Stat → Int} {s : Stat} {n : Int}
    (hg : ∀ r, g r = f r + if s = r then n else 0) (h : int64.Holds (g s)) : (of f).add s n = .ok (of g) := by
  have hs : g s = f s + n := by rw [hg, if_pos rfl]
  rw [hs] at h
  have hadd : int64.add ((of f).get s) n = .ok (f s + n) := by
    rw [get_of]
    exact if_pos h
  have hset : (of f).set (f s + n) s = of g := by
    refine ext_get fun r => ?_
    rw [get_set, get_of, get_of, hg r]
    by_cases hr : r = s
    · simp [hr]
    · simp [hr, Ne.symm hr]
  rw [← hset, add, hadd]
  rfl

end Tally

inductive Side where
  | team (t : Team)
  | player (id : SteamId)
  deriving DecidableEq

/-- Teams have totals, and so have players with a valid steam id. -/
def Side.Counts : Side → Prop
  | .team _ => True
  | .player id => id.Valid

namespace Credit

def side : Credit → Side
  | .team t _ _ => .team t
  | .player p _ _ => .player p.steamId

def stat : Credit → Stat
  | .team _ s _ => s
  | .player _ s _ => s

def amount : Credit → Int
  | .team _ _ n => n
  | .player _ _ n => n

def player? : Credit → Option Player
  | .team _ _ _ => none
  | .player p _ _ => some p

end Credit

def balance (cs : List Credit) (side : Side) (s : Stat) : Int :=
  sum ((cs.filter fun c => c.side = side && c.stat = s).map (·.amount))

theorem balance_append (cs ds : List Credit) (side : Side) (s : Stat) :
    balance (cs ++ ds) side s = balance cs side s + balance ds side s := by
  simp only [balance, List.filter_append, List.map_append, sum_append]

theorem balance_nil (side : Side) (s : Stat) : balance [] side s = 0 := rfl

theorem balance_cons (c : Credit) (cs : List Credit) (side : Side) (s : Stat) :
    balance (c :: cs) side s =
      (if c.side = side ∧ c.stat = s then c.amount else 0) + balance cs side s := by
  by_cases hc : c.side = side ∧ c.stat = s
  · simp [balance, sum, hc]
  · have hskip : (decide (c.side = side) && decide (c.stat = s)) = false := by simpa using hc
    simp only [balance, List.filter_cons, hskip, if_neg hc]
    exact (Int.zero_add _).symm

theorem balance_concat_self (cs : List Credit) (c : Credit) (s : Stat) :
    balance (cs ++ [c]) c.side s = balance cs c.side s + if c.stat = s then c.amount else 0 := by
  rw [balance_append, balance_cons]
  simp [balance, sum]

theorem balance_concat_of_ne {c : Credit} {side : Side} (h : c.side ≠ side) (cs : List Credit) :
    balance (cs ++ [c]) side = balance cs side := by
  funext s
  rw [balance_append, balance_cons]
  simp [balance, sum, h]

theorem balance_nonneg {cs : List Credit} (h : ∀ c ∈ cs, 0 ≤ c.amount) (side : Side) (s : Stat) :
    0 ≤ balance cs side s := by
  refine sum_nonneg fun n hn => ?_
  obtain ⟨c, hc, rfl⟩ := List.mem_map.1 hn
  exact h c (List.mem_of_mem_filter hc)

/-- A side without credits has no totals. -/
theorem balance_of_no_credit {cs : List Credit} {side : Side} (h : ∀ c ∈ cs, c.side ≠ side)
    (s : Stat) : balance cs side s = 0 := by
  have hnil : (cs.filter fun c => c.side = side && c.stat = s) = [] := by
    refine List.filter_eq_nil_iff.2 fun c hc => ?_
    simp [h c hc]
  rw [balance, hnil]
  rfl

def last? (ps : List Player) (id : SteamId) : Option Player :=
  (ps.filter (·.steamId = id)).getLast?

theorem last?_concat (ps : List Player) (p : Player) (id : SteamId) :
    last? (ps ++ [p]) id = if p.steamId = id then some p else last? ps id := by
  by_cases hp : p.steamId = id
  · simp [last?, hp]
  · simp [last?, hp]

structure Accounts (m : Match) (cs : List Credit) : Prop where
  teams : ∀ t, m.teams.get? t =
    if cs.any (·.side = .team t) then some (.of (balance cs (.team t))) else none
  players : ∀ id, m.players.get? id =
    if id.Valid then (last? (cs.filterMap (·.player?)) id).map fun p =>
      ⟨p.name, p.team, .of (balance cs (.player id))⟩
    else none

structure Modest (cs : List Credit) : Prop where
  nonneg : ∀ c ∈ cs, 0 ≤ c.amount
  fits : ∀ side, side.Counts → ∀ s, balance cs side s ≤ int64.high

theorem Modest.left {cs ds : List Credit} (h : Modest (cs ++ ds)) : Modest cs where
  nonneg c hc := h.nonneg c (List.mem_append_left _ hc)
  fits side hside s := by
    have hall := h.fits side hside s
    have hds := balance_nonneg (fun c hc => h.nonneg c (List.mem_append_right cs hc)) side s
    rw [balance_append] at hall
    omega

theorem Modest.holds {cs : List Credit} (h : Modest cs) (side : Side) (hside : side.Counts)
    (s : Stat) : int64.Holds (balance cs side s) := by
  have hlow := balance_nonneg h.nonneg side s
  have hzero : int64.low ≤ 0 := by decide
  exact ⟨Int.le_trans hzero hlow, h.fits side hside s⟩

theorem accounts_start (id : MatchId) (server : Server) (map : String) (createdAt : Time.Instant) :
    (start id server map createdAt).Accounts [] where
  teams t := rfl
  players id := by simp [start, last?, Table.get?_empty]

namespace Accounts
variable {m : Match} {cs : List Credit}

theorem tally_team (h : m.Accounts cs) (t : Team) :
    (m.teams.get? t).getD .zero = .of (balance cs (.team t)) := by
  rw [h.teams t]
  cases hany : cs.any (·.side = .team t) with
  | true => rfl
  | false =>
    have hno : ∀ c ∈ cs, c.side ≠ .team t := by simpa using hany
    simp only [Bool.false_eq_true, if_false, Option.getD_none, Tally.of, balance_of_no_credit hno]
    rfl

theorem tally_player (h : m.Accounts cs) {id : SteamId} (hid : id.Valid) :
    ((m.players.get? id).map (·.tally)).getD .zero = .of (balance cs (.player id)) := by
  rw [h.players id, if_pos hid]
  cases hlast : last? (cs.filterMap (·.player?)) id with
  | some p => rfl
  | none =>
    have hno : ∀ c ∈ cs, c.side ≠ .player id := by
      intro c hc hside
      cases c with
      | team t s n => cases hside
      | player p s n =>
        have hmem : p ∈ (cs.filterMap (·.player?)).filter (·.steamId = id) :=
          List.mem_filter.2 ⟨List.mem_filterMap.2 ⟨_, hc, rfl⟩,
            by simpa using Side.player.inj hside⟩
        rw [List.getLast?_eq_none_iff.1 hlast] at hmem
        cases hmem
    simp only [Option.map_none, Option.getD_none, Tally.of, balance_of_no_credit hno]
    rfl

theorem tally_enroll (h : m.Accounts cs) {p : Player} (hp : p.steamId.Valid) :
    (m.enroll p).2 = .of (balance cs (.player p.steamId)) := by
  rw [← h.tally_player hp]
  simp only [enroll]
  cases m.players.get? p.steamId <;> rfl

theorem count_team (h : m.Accounts cs) (t : Team) (s : Stat) (n : Int)
    (hfit : Modest (cs ++ [.team t s n])) :
    ∃ m', m.count (.team t s n) = (m', .ok ()) ∧ m'.Accounts (cs ++ [.team t s n]) := by
  have hside : ∀ side, side ≠ .team t →
      balance (cs ++ [.team t s n]) side = balance cs side := fun side hne =>
    balance_concat_of_ne (c := .team t s n) hne.symm cs
  have hadd : (Tally.of (balance cs (.team t))).add s n =
      .ok (.of (balance (cs ++ [.team t s n]) (.team t))) :=
    Tally.add_of (balance_concat_self cs (.team t s n)) (hfit.holds (.team t) trivial s)
  refine ⟨{ m with teams := m.teams.insert t (.of (balance (cs ++ [.team t s n]) (.team t))) },
    by simp only [Match.count, h.tally_team, hadd], fun t' => ?_, fun id => ?_⟩
  · rw [Table.get?_insert, List.any_append]
    by_cases ht : t = t'
    · subst ht
      simp [Credit.side]
    · rw [if_neg ht, h.teams t', hside _ fun heq => ht (Side.team.inj heq).symm]
      simp [Credit.side, ht]
  · rw [hside (.player id) (by simp), List.filterMap_append]
    simpa [Credit.player?] using h.players id

theorem player?_concat (cs : List Credit) (p : Player) (s : Stat) (n : Int) :
    (cs ++ [Credit.player p s n]).filterMap (·.player?) = cs.filterMap (·.player?) ++ [p] := by
  rw [List.filterMap_append]
  rfl

theorem count_player (h : m.Accounts cs) {p : Player} (hp : p.steamId.Valid) (s : Stat) (n : Int)
    (hfit : Modest (cs ++ [.player p s n])) :
    ∃ m', m.count (.player p s n) = (m', .ok ()) ∧ m'.Accounts (cs ++ [.player p s n]) := by
  have hside : ∀ side, side ≠ .player p.steamId →
      balance (cs ++ [.player p s n]) side = balance cs side := fun side hne =>
    balance_concat_of_ne (c := .player p s n) hne.symm cs
  have hadd : (Tally.of (balance cs (.player p.steamId))).add s n =
      .ok (.of (balance (cs ++ [.player p s n]) (.player p.steamId))) :=
    Tally.add_of (balance_concat_self cs (.player p s n))
      (hfit.holds (.player p.steamId) hp s)
  let line : Line := ⟨p.name, p.team, .of (balance (cs ++ [.player p s n]) (.player p.steamId))⟩
  refine ⟨{ (m.enroll p).1 with players := (m.enroll p).1.players.insert p.steamId line },
    by simp only [Match.count, if_pos hp, h.tally_enroll hp, hadd, line], fun t => ?_, fun id => ?_⟩
  · rw [hside (.team t) (by simp)]
    simpa [enroll, Credit.side] using h.teams t
  · rw [player?_concat, last?_concat]
    simp only [enroll, Table.get?_insert, line]
    by_cases hid : p.steamId = id
    · subst hid
      simp [hp]
    · rw [if_neg hid, if_neg hid, if_neg hid, h.players id,
        hside _ fun heq => hid (Side.player.inj heq).symm]

theorem count_invalid (h : m.Accounts cs) {p : Player} (hp : ¬ p.steamId.Valid) (s : Stat)
    (n : Int) :
    m.count (.player p s n) = (m, .ok ()) ∧ m.Accounts (cs ++ [.player p s n]) := by
  have hside : ∀ side, side ≠ .player p.steamId →
      balance (cs ++ [.player p s n]) side = balance cs side := fun side hne =>
    balance_concat_of_ne (c := .player p s n) hne.symm cs
  refine ⟨by simp only [Match.count, if_neg hp], fun t => ?_, fun id => ?_⟩
  · rw [hside (.team t) (by simp)]
    simpa [Credit.side] using h.teams t
  · rw [player?_concat, last?_concat, h.players id]
    by_cases hid : p.steamId = id
    · subst hid
      rw [if_neg hp, if_neg hp]
    · rw [if_neg hid, hside _ fun heq => hid (Side.player.inj heq).symm]

/-- Counting a credit adds it to the accounts. -/
theorem count (h : m.Accounts cs) {c : Credit} (hfit : Modest (cs ++ [c])) :
    ∃ m', m.count c = (m', .ok ()) ∧ m'.Accounts (cs ++ [c]) := by
  cases c with
  | team t s n => exact h.count_team t s n hfit
  | player p s n =>
    by_cases hp : p.steamId.Valid
    · exact h.count_player hp s n hfit
    · exact ⟨m, h.count_invalid hp s n⟩

theorem countAll {ds : List Credit} (h : m.Accounts cs) (hfit : Modest (cs ++ ds)) :
    ∃ m', m.countAll ds = (m', .ok ()) ∧ m'.Accounts (cs ++ ds) := by
  induction ds generalizing m cs with
  | nil => exact ⟨m, rfl, by simpa using h⟩
  | cons d ds ih =>
    have happ : cs ++ d :: ds = cs ++ [d] ++ ds := by simp
    rw [happ] at hfit ⊢
    obtain ⟨m₁, hd, h₁⟩ := h.count hfit.left
    obtain ⟨m₂, hds, h₂⟩ := ih h₁ hfit
    exact ⟨m₂, by rw [Match.countAll, hd]; exact hds, h₂⟩

end Accounts

def isTaken (e : Event) : Bool := (effect e).isOk

def creditsFor (e : Event) : List Credit :=
  match effect e with
  | .ok (.credit cs) => cs
  | _ => []

/-- An event is taken or rejected for what it is, and its credits are counted. -/
theorem Accounts.apply {m : Match} {cs : List Credit} {e : Event} (h : m.Accounts cs)
    (hown : e.origin.id = m.server.id) (hfit : Modest (cs ++ creditsFor e)) :
    (m.apply e).1.Accounts (cs ++ creditsFor e) ∧
      (m.apply e).2 ≠ .overflowed .sum ∧ ((m.apply e).2 = .accepted ↔ isTaken e = true) := by
  unfold Match.apply
  rw [if_neg (not_not.2 hown)]
  unfold creditsFor at hfit ⊢
  unfold isTaken
  cases he : effect e with
  | error cause => simpa [Except.isOk, Except.toBool] using h
  | ok eff =>
    simp only [he] at hfit
    have hok : (Except.ok eff : Except Rejection Effect).isOk = true := rfl
    cases eff with
    | credit ds =>
      obtain ⟨m', hcount, h'⟩ := h.countAll hfit
      simpa [perform, hcount, hok] using h'
    | rename map =>
      rw [List.append_nil]
      exact ⟨⟨h.teams, h.players⟩, nofun, iff_of_true rfl hok⟩
    | openRound startedAt =>
      rw [List.append_nil]
      exact ⟨⟨h.teams, h.players⟩, nofun, iff_of_true rfl hok⟩
    | closeRound endedAt winner score =>
      rw [List.append_nil]
      exact ⟨⟨h.teams, h.players⟩, nofun, iff_of_true rfl hok⟩

def after (m : Match) (es : List Event) : Match := es.foldl (fun m e => (m.apply e).1) m

def accepted (m : Match) : List Event → List Event
  | [] => []
  | e :: es => (if (m.apply e).2 = .accepted then [e] else []) ++ (m.apply e).1.accepted es

theorem Accounts.after {m : Match} {cs : List Credit} {es : List Event} (h : m.Accounts cs)
    (hown : ∀ e ∈ es, e.origin.id = m.server.id) (hfit : Modest (cs ++ es.flatMap creditsFor)) :
    (m.after es).Accounts (cs ++ es.flatMap creditsFor) ∧ m.accepted es = es.filter isTaken ∧
      ∀ before e since, es = before ++ e :: since →
        ((m.after before).apply e).2 ≠ .overflowed .sum := by
  induction es generalizing m cs with
  | nil =>
    rw [List.flatMap_nil, List.append_nil]
    exact ⟨h, rfl, fun before e since heq => by simp at heq⟩
  | cons e es ih =>
    have hserver : (m.apply e).1.server = m.server := (sameMatch_apply m e).server
    rw [List.flatMap_cons, ← List.append_assoc] at hfit ⊢
    obtain ⟨he, hno, htaken⟩ := h.apply (hown e (by simp)) hfit.left
    have hrest : ∀ f ∈ es, f.origin.id = (m.apply e).1.server.id := by
      intro f hf
      rw [hserver]
      exact hown f (List.mem_cons_of_mem e hf)
    obtain ⟨hes, haccepted, hnone⟩ := ih he hrest hfit
    refine ⟨hes, ?_, fun before f since heq => ?_⟩
    · rw [accepted, haccepted, List.filter_cons]
      by_cases ht : isTaken e = true
      · rw [if_pos (htaken.2 ht), if_pos ht]
        rfl
      · rw [if_neg (mt htaken.1 ht), if_neg ht]
        rfl
    · cases before with
      | nil =>
        obtain ⟨rfl, rfl⟩ := List.cons.inj heq
        exact hno
      | cons b before =>
        obtain ⟨rfl, rfl⟩ := List.cons.inj heq
        exact hnone before f since rfl

end Moderation.Match
