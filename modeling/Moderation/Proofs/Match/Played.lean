import Moderation.Proofs.Match.Credits
/-!
The rounds, the map and the scores of a match as functions of what it accepted. Each accepted end
makes one round, which starts with the last start since the end before it.
-/
namespace Moderation.Match
open Number Time

def startsRound (e : Event) : Bool := e.kind = .roundStart

def endsRound (e : Event) : Bool := e.kind = .roundEnd

/-- The time of the last start since the last end. -/
def startSince (events : List Event) : Option Stamp :=
  ((events.rtakeWhile (!endsRound ·)).filter startsRound).getLast?.map (·.occurredAt)

theorem startSince_concat (events : List Event) (e : Event) :
    startSince (events ++ [e]) =
      if endsRound e then none
      else if startsRound e then some e.occurredAt else startSince events := by
  unfold startSince
  cases hend : endsRound e with
  | true => simp [hend]
  | false =>
    rw [List.rtakeWhile_concat, if_pos (by simp [hend])]
    cases hstart : startsRound e <;> simp [hstart]

inductive Play (m : Match) (e : Event) : Match → Verdict → Prop
  | load (map : String) (hk : e.kind = .mapLoad) (hp : e.payload = .mapLoad map) :
    Play m e { m with map } .accepted
  | start (hk : e.kind = .roundStart) :
    Play m e { m with openRound := some e.occurredAt } .accepted
  | finish (winner : Option Team) (score : Score) (hk : e.kind = .roundEnd)
    (hp : e.payload = .roundEnd winner score) :
    Play m e { m with
      rounds := m.rounds ++ [⟨m.openRound, e.occurredAt, winner, score⟩], openRound := none }
      .accepted
  | reject (cause : Rejection) (h : e.kind = .roundStart → e.origin.id ≠ m.server.id) :
    Play m e m (.rejected cause)
  | other (hload : e.kind ≠ .mapLoad) (hstart : e.kind ≠ .roundStart) (hend : e.kind ≠ .roundEnd)
    (teams : Table Team Tally) (players : Table SteamId Line) (v : Verdict) :
    Play m e { m with teams, players } v

theorem effect_of_start {e : Event} (hk : e.kind = .roundStart) :
    effect e = .ok (.openRound e.occurredAt) := by
  simp [effect, hk]
  rfl

theorem effect_of_load {e : Event} {eff : Effect} (hk : e.kind = .mapLoad)
    (h : effect e = .ok eff) : ∃ map, e.payload = .mapLoad map ∧ eff = .rename map := by
  cases hp : e.payload with
  | mapLoad map =>
    simp only [effect, hk, hp] at h
    cases h
    exact ⟨map, rfl, rfl⟩
  | _ => simp [effect, hk, hp] at h

theorem effect_of_end {e : Event} {eff : Effect} (hk : e.kind = .roundEnd)
    (h : effect e = .ok eff) : ∃ winner score, e.payload = .roundEnd winner score ∧
      eff = .closeRound e.occurredAt winner score := by
  cases hp : e.payload with
  | roundEnd winner score =>
    simp only [effect, hk, hp] at h
    cases h
    exact ⟨winner, score, rfl, rfl⟩
  | _ => simp [effect, hk, hp] at h

/-- All other kinds are about statistics, or about nothing. -/
theorem effect_of_other {e : Event} {eff : Effect} (hload : e.kind ≠ .mapLoad)
    (hstart : e.kind ≠ .roundStart) (hend : e.kind ≠ .roundEnd) (h : effect e = .ok eff) :
    ∃ cs, eff = .credit cs := by
  unfold effect at h
  split at h
  next hk _ => exact absurd hk hload
  next hk => exact absurd hk hstart
  next hk _ => exact absurd hk hend
  next =>
    obtain ⟨attacker, -, h⟩ := bind_eq_ok h
    cases h
    exact ⟨_, rfl⟩
  next =>
    obtain ⟨p, -, h⟩ := bind_eq_ok h
    obtain ⟨n, -, h⟩ := bind_eq_ok h
    cases h
    exact ⟨_, rfl⟩
  next =>
    obtain ⟨p, -, h⟩ := bind_eq_ok h
    obtain ⟨n, -, h⟩ := bind_eq_ok h
    cases h
    exact ⟨_, rfl⟩
  next =>
    obtain ⟨p, -, h⟩ := bind_eq_ok h
    cases h
    exact ⟨_, rfl⟩
  all_goals cases h
  all_goals exact ⟨_, rfl⟩

theorem play_apply (m : Match) (e : Event) : Play m e (m.apply e).1 (m.apply e).2 := by
  unfold apply
  split
  next hother => exact .reject _ fun _ => hother
  next =>
    cases heff : effect e with
    | error cause =>
      refine .reject cause fun hk => ?_
      rw [effect_of_start hk] at heff
      cases heff
    | ok eff =>
      by_cases hload : e.kind = .mapLoad
      · obtain ⟨map, hp, rfl⟩ := effect_of_load hload heff
        exact .load map hload hp
      by_cases hstart : e.kind = .roundStart
      · rw [effect_of_start hstart] at heff
        cases heff
        exact .start hstart
      by_cases hend : e.kind = .roundEnd
      · obtain ⟨winner, score, hp, rfl⟩ := effect_of_end hend heff
        exact .finish winner score hend hp
      obtain ⟨cs, rfl⟩ := effect_of_other hload hstart hend heff
      obtain ⟨teams, players, hsame⟩ := exists_countAll m cs
      rcases hcount : m.countAll cs with ⟨m', result⟩
      rw [hcount] at hsame
      cases hsame
      simp only [perform, hcount]
      cases result <;> exact .other hload hstart hend teams players _

theorem after_concat (m : Match) (es : List Event) (e : Event) :
    m.after (es ++ [e]) = ((m.after es).apply e).1 := by
  simp [after]

theorem accepted_append (m : Match) (es fs : List Event) :
    m.accepted (es ++ fs) = m.accepted es ++ (m.after es).accepted fs := by
  induction es generalizing m with
  | nil => rfl
  | cons e es ih =>
    rw [List.cons_append, accepted, accepted, ih, List.append_assoc]
    rfl

theorem accepted_concat (m : Match) (es : List Event) (e : Event) :
    m.accepted (es ++ [e]) =
      m.accepted es ++ if ((m.after es).apply e).2 = .accepted then [e] else [] := by
  rw [accepted_append, accepted, accepted, List.append_nil]

def loadedMap? (e : Event) : Option String :=
  match e.kind, e.payload with
  | .mapLoad, .mapLoad map => some map
  | _, _ => none

theorem loadedMap?_of_ne {e : Event} (h : e.kind ≠ .mapLoad) : loadedMap? e = none := by
  unfold loadedMap?
  split
  next hk _ => exact absurd hk h
  next => rfl

theorem concat_eq_append_cons {α : Type} {xs before later : List α} {x y : α}
    (h : xs ++ [x] = before ++ y :: later) :
    (xs = before ∧ x = y ∧ later = []) ∨
      ∃ rest, xs = before ++ y :: rest ∧ later = rest ++ [x] := by
  obtain rfl | ⟨rest, z, rfl⟩ := List.eq_nil_or_concat later
  · obtain ⟨hxs, hx⟩ := List.append_inj' h rfl
    cases hx
    exact .inl ⟨hxs, rfl, rfl⟩
  · rw [List.concat_eq_append, ← List.cons_append, ← List.append_assoc] at h
    obtain ⟨hxs, hx⟩ := List.append_inj' h rfl
    cases hx
    exact .inr ⟨rest, hxs, List.concat_eq_append⟩

/-- A match as what it accepted tells it: one round for each end, the start under way, and the map
that was loaded last. -/
structure Tells (fresh : Match) (events : List Event) (m : Match) : Prop where
  map : m.map = (events.filterMap loadedMap?).getLast?.getD fresh.map
  openRound : m.openRound = startSince events
  count : m.rounds.length = events.countP endsRound
  round : ∀ before e later, events = before ++ e :: later → e.kind = .roundEnd →
    ∃ winner score, e.payload = .roundEnd winner score ∧
      m.rounds[before.countP endsRound]? =
        some ⟨startSince before, e.occurredAt, winner, score⟩
  starts : (m.rounds.filterMap (·.startedAt) ++ m.openRound.toList).Sublist
    ((events.filter startsRound).map (·.occurredAt))

namespace Tells
variable {fresh m : Match} {events : List Event} {e : Event}

/-- An event of another kind tells nothing. -/
theorem skip (h : Tells fresh events m) (hload : e.kind ≠ .mapLoad) (hstart : e.kind ≠ .roundStart)
    (hend : e.kind ≠ .roundEnd) : Tells fresh (events ++ [e]) m where
  map := by simpa [loadedMap?_of_ne hload] using h.map
  openRound := by simpa [startSince_concat, startsRound, endsRound, hstart, hend] using h.openRound
  count := by simpa [endsRound, hend] using h.count
  round before x later heq hx := by
    obtain ⟨-, rfl, -⟩ | ⟨rest, heq, -⟩ := concat_eq_append_cons heq
    · exact absurd hx hend
    · exact h.round before x rest heq hx
  starts := by simpa [startsRound, hstart] using h.starts

theorem load (h : Tells fresh events m) {map : String} (hk : e.kind = .mapLoad)
    (hp : e.payload = .mapLoad map) : Tells fresh (events ++ [e]) { m with map } where
  map := by simp [loadedMap?, hk, hp]
  openRound := by simpa [startSince_concat, startsRound, endsRound, hk] using h.openRound
  count := by simpa [endsRound, hk] using h.count
  round before x later heq hx := by
    obtain ⟨-, rfl, -⟩ | ⟨rest, heq, -⟩ := concat_eq_append_cons heq
    · rw [hk] at hx
      cases hx
    · exact h.round before x rest heq hx
  starts := by simpa [startsRound, hk] using h.starts

/-- A start takes the place of the one under way. -/
theorem start (h : Tells fresh events m) (hk : e.kind = .roundStart) :
    Tells fresh (events ++ [e]) { m with openRound := some e.occurredAt } where
  map := by simpa [loadedMap?, hk] using h.map
  openRound := by simp [startSince_concat, startsRound, endsRound, hk]
  count := by simpa [endsRound, hk] using h.count
  round before x later heq hx := by
    obtain ⟨-, rfl, -⟩ | ⟨rest, heq, -⟩ := concat_eq_append_cons heq
    · rw [hk] at hx
      cases hx
    · exact h.round before x rest heq hx
  starts := by
    have hold := (List.sublist_append_left ..).trans h.starts
    simpa [startsRound, hk] using hold.append_right [e.occurredAt]

/-- An end closes the round under way, and leaves none. -/
theorem finish (h : Tells fresh events m) {winner : Option Team} {score : Score}
    (hk : e.kind = .roundEnd) (hp : e.payload = .roundEnd winner score) :
    Tells fresh (events ++ [e]) { m with
      rounds := m.rounds ++ [⟨m.openRound, e.occurredAt, winner, score⟩], openRound := none } where
  map := by simpa [loadedMap?, hk] using h.map
  openRound := by simp [startSince_concat, endsRound, hk]
  count := by simp [h.count, endsRound, hk]
  round before x later heq hx := by
    obtain ⟨rfl, rfl, -⟩ | ⟨rest, heq, -⟩ := concat_eq_append_cons heq
    · refine ⟨winner, score, hp, ?_⟩
      rw [← h.count, ← h.openRound]
      simp
    · obtain ⟨w, s, hpayload, hround⟩ := h.round before x rest heq hx
      refine ⟨w, s, hpayload, ?_⟩
      have hlt := (List.getElem?_eq_some_iff.1 hround).1
      rw [List.getElem?_append_left hlt]
      exact hround
  starts := by
    have hstarts := h.starts
    cases hopen : m.openRound <;> simpa [startsRound, hk, hopen] using hstarts

theorem step (h : Tells fresh events m) (e : Event) :
    Tells fresh (events ++ if (m.apply e).2 = .accepted then [e] else []) (m.apply e).1 := by
  have hplay := play_apply m e
  generalize (m.apply e).1 = m', (m.apply e).2 = v at hplay ⊢
  cases hplay with
  | load map hk hp => exact h.load hk hp
  | start hk => exact h.start hk
  | finish winner score hk hp => exact h.finish hk hp
  | reject cause _ => simpa using h
  | other hload hstart hend teams players =>
    have hsame : ∀ {es : List Event}, Tells fresh es m → Tells fresh es { m with teams, players } :=
      fun k => ⟨k.map, k.openRound, k.count, k.round, k.starts⟩
    split
    · exact hsame (h.skip hload hstart hend)
    · simpa using hsame h

end Tells

theorem tells_after (fresh : Match) (hrounds : fresh.rounds = []) (hopen : fresh.openRound = none)
    (es : List Event) : Tells fresh (fresh.accepted es) (fresh.after es) := by
  induction es using List.reverseRecOn with
  | nil =>
    refine ⟨rfl, hopen, by rw [after, List.foldl_nil, hrounds]; rfl,
      fun before e later heq => ?_, ?_⟩
    · simp [accepted] at heq
    · simp [after, accepted, hrounds, hopen]
  | append_singleton es e ih =>
    rw [after_concat, accepted_concat]
    exact ih.step e

/-- A match accepts all starts of its own server, and no others. -/
theorem filter_startsRound_accepted (m : Match) (es : List Event) :
    (m.accepted es).filter startsRound =
      es.filter fun e => startsRound e && e.origin.id = m.server.id := by
  induction es generalizing m with
  | nil => rfl
  | cons e es ih =>
    have hserver : (m.apply e).1.server = m.server := (sameMatch_apply m e).server
    rw [accepted, List.filter_append, ih, hserver, List.filter_cons]
    cases hstart : startsRound e with
    | false => split <;> simp [hstart]
    | true =>
      by_cases hown : e.origin.id = m.server.id
      · have haccepted : (m.apply e).2 = .accepted := by
          simp [apply, hown, effect_of_start (by simpa [startsRound] using hstart), perform]
        simp [haccepted, hstart, hown]
      · have hrejected : (m.apply e).2 ≠ .accepted := by simp [apply, hown]
        simp [hrejected, hown]

/-- The map of an accepted load is known. -/
theorem isSome_loadedMap?_of_accepted {m : Match} {e : Event} (hk : e.kind = .mapLoad)
    (h : (m.apply e).2 = .accepted) : (loadedMap? e).isSome = true := by
  have hplay := play_apply m e
  rw [h] at hplay
  generalize (m.apply e).1 = m' at hplay
  cases hplay with
  | load map _ hp => simp [loadedMap?, hk, hp]
  | start hstart =>
    rw [hk] at hstart
    cases hstart
  | finish _ _ hend _ =>
    rw [hk] at hend
    cases hend
  | other hload _ _ _ _ => exact absurd hk hload

theorem accepted_of_mem {m : Match} {es : List Event} {e : Event} (h : e ∈ m.accepted es) :
    ∃ before, ((m.after before).apply e).2 = .accepted := by
  induction es generalizing m with
  | nil => cases h
  | cons x es ih =>
    rw [accepted, List.mem_append] at h
    obtain h | h := h
    · split at h
      next hx =>
        cases List.mem_singleton.1 h
        exact ⟨[], hx⟩
      next => cases h
    · obtain ⟨before, hbefore⟩ := ih h
      exact ⟨x :: before, hbefore⟩

@[simp] theorem sum_nil : sum [] = 0 := rfl

@[simp] theorem sum_cons (n : Int) (ns : List Int) : sum (n :: ns) = n + sum ns := rfl

/-- Integers are added up one by one exactly if all sums on the way are in range. -/
theorem foldlM_add_eq_ok_iff {ns : List Int} {a n : Int} (ha : int32.Holds a) :
    ns.foldlM int32.add a = .ok n ↔
      n = a + sum ns ∧ ∀ k, int32.Holds (a + sum (ns.take k)) := by
  induction ns generalizing a with
  | nil =>
    have hnil : ([] : List Int).foldlM int32.add a = .ok a := rfl
    simp [hnil, ha, eq_comm]
  | cons x ns ih =>
    rw [List.foldlM_cons]
    by_cases hx : int32.Holds (a + x)
    · have hadd : int32.add a x = .ok (a + x) := if_pos hx
      rw [hadd]
      change ns.foldlM int32.add (a + x) = .ok n ↔ _
      rw [ih hx, sum_cons, ← Int.add_assoc]
      refine and_congr_right fun _ => ⟨fun h k => ?_, fun h k => ?_⟩
      · cases k with
        | zero => simpa using ha
        | succ k => simpa [Int.add_assoc] using h k
      · simpa [Int.add_assoc] using h (k + 1)
    · have hadd : int32.add a x = .error .sum := if_neg hx
      rw [hadd]
      refine iff_of_false nofun fun h => hx ?_
      simpa using h.2 1

def points (rs : List Round) (side : Score → Int) : List Int := rs.map (side ·.score)

theorem sum_take_le {ns : List Int} (h : ∀ n ∈ ns, 0 ≤ n) (k : Nat) :
    sum (ns.take k) ≤ sum ns := by
  have hrest : 0 ≤ sum (ns.drop k) := sum_nonneg fun n hn => h n (List.mem_of_mem_drop hn)
  have hsplit := sum_append (ns.take k) (ns.drop k)
  rw [List.take_append_drop] at hsplit
  omega

/-- A score that is the sum of the points, provided that the sums on the way to it are in range. If
there are no negative points, the last of these sums is the largest. -/
structure AddsUp (points : List Int) (score : Except Overflow Int) : Prop where
  iff : ∀ n, score = .ok n ↔ n = sum points ∧ ∀ k, int32.Holds (sum (points.take k))
  natural : (∀ n ∈ points, 0 ≤ n) → int32.Holds (sum points) → score = .ok (sum points)

theorem addsUp_total (s : Sealed) (side : Score → Int) :
    AddsUp (points s.rounds side) (s.total side) := by
  have hiff : ∀ n, s.total side = .ok n ↔ n = sum (points s.rounds side) ∧
      ∀ k, int32.Holds (sum ((points s.rounds side).take k)) := by
    intro n
    have h := @foldlM_add_eq_ok_iff (points s.rounds side) 0 n (by decide)
    rw [points, List.foldlM_map] at h
    simpa [Sealed.total, points] using h
  refine ⟨hiff, fun h hfit => (hiff _).2 ⟨rfl, fun k => ⟨?_, ?_⟩⟩⟩
  · have hlow : int32.low ≤ 0 := by decide
    exact Int.le_trans hlow (sum_nonneg fun n hn => h n (List.mem_of_mem_take hn))
  · exact Int.le_trans (sum_take_le h k) hfit.2

/-- What a match shows of the events it was given. Its rounds are those that accepted ends close,
each from the last start since the end before. Its map is the one that was loaded last, and its
scores are the points of its rounds. -/
structure Played (fresh : Match) (es : List Event) : Prop where
  count : (fresh.after es).rounds.length = (fresh.accepted es).countP endsRound
  round : ∀ before e later, fresh.accepted es = before ++ e :: later → e.kind = .roundEnd →
    ∃ winner score, e.payload = .roundEnd winner score ∧
      (fresh.after es).rounds[before.countP endsRound]? =
        some ⟨startSince before, e.occurredAt, winner, score⟩
  starts : (fresh.accepted es).filter startsRound =
    es.filter fun e => startsRound e && e.origin.id = fresh.server.id
  once : ((fresh.after es).rounds.filterMap (·.startedAt)).Sublist
    ((es.filter startsRound).map (·.occurredAt))
  rejected : ∀ e cause, ((fresh.after es).apply e).2 = .rejected cause →
    fresh.after (es ++ [e]) = fresh.after es ∧ fresh.accepted (es ++ [e]) = fresh.accepted es
  finished : ∀ now, ((fresh.after es).finish now).rounds = (fresh.after es).rounds
  loads : ∀ e ∈ fresh.accepted es, e.kind = .mapLoad → (loadedMap? e).isSome = true
  map : (fresh.after es).map =
    ((fresh.accepted es).filterMap loadedMap?).getLast?.getD fresh.map
  red : ∀ now, AddsUp (points (fresh.after es).rounds Score.red)
    ((fresh.after es).finish now).redScore
  blu : ∀ now, AddsUp (points (fresh.after es).rounds Score.blu)
    ((fresh.after es).finish now).bluScore

/-- Every fresh match shows the events it is given. -/
theorem played_start (id : MatchId) (server : Server) (map : String) (createdAt : Instant)
    (es : List Event) : Played (start id server map createdAt) es := by
  set fresh := start id server map createdAt
  have htells := tells_after fresh rfl rfl es
  refine {
    count := htells.count
    round := htells.round
    starts := filter_startsRound_accepted fresh es
    once := ?_
    rejected := fun e cause hrejected => ?_
    finished := fun _ => rfl
    loads := fun e he hk => ?_
    map := htells.map
    red := fun now => addsUp_total ((fresh.after es).finish now) Score.red
    blu := fun now => addsUp_total ((fresh.after es).finish now) Score.blu }
  · have hown := (List.sublist_append_left ..).trans htells.starts
    rw [filter_startsRound_accepted] at hown
    exact hown.trans ((List.monotone_filter_right es fun e h => by simp_all).map _)
  · rw [after_concat, accepted_concat, hrejected, if_neg nofun, List.append_nil]
    exact ⟨apply_of_rejected (Prod.ext rfl hrejected), rfl⟩
  · obtain ⟨before, haccepted⟩ := accepted_of_mem he
    exact isSome_loadedMap?_of_accepted hk haccepted

end Moderation.Match
