import Mathlib.Data.List.DropRight
import Moderation.Match.Book
/-!
The steps of one server, and what they come to. The live match is the one opened by the first map
load since the last terminal step, with the accepted events after it; a step does what this match
lets it do, and nothing else.
-/
namespace Moderation.Match
open Number Time

/-- An event that is handled, the time of it, and the id that a match opened by it gets. -/
structure Step where
  fresh : MatchId
  now : Instant
  event : Event

namespace Step

def server (s : Step) : Int := s.event.origin.id

def map? (s : Step) : Option String :=
  match s.event.kind, s.event.payload with
  | .mapLoad, .mapLoad map => some map
  | _, _ => none

def isTerminal (s : Step) : Bool := s.event.kind.isTerminal

def opened? (s : Step) : Option Match :=
  s.map?.map fun map => .start s.fresh s.event.origin map s.now

end Step

def ofServer (server : Int) (steps : List Step) : List Step := steps.filter (·.server = server)

/-- Applies the events that are accepted and skips the others. -/
def absorb (m : Match) (es : List Event) : Match :=
  es.foldl (fun m e => match m.apply e with
    | (applied, .accepted) => applied
    | _ => m) m

/-- The steps of a server since its last terminal one, from the first map load on. -/
def current (own : List Step) : List Step :=
  (own.rtakeWhile (!·.isTerminal)).dropWhile (·.map?.isNone)

def live? (own : List Step) : Option Match :=
  match current own with
  | [] => none
  | o :: since => o.opened?.map (·.absorb (since.map (·.event)))

def transition (own : List Step) (s : Step) : Transition :=
  match live? own with
  | none => if s.map?.isSome then .created s.fresh else .discarded
  | some m => if s.isTerminal then .sealed ((m.absorb [s.event]).finish s.now) else .applied

/-- No event makes a total of its match overflow. -/
def Fits (steps : List Step) : Prop :=
  ∀ before s after, steps = before ++ s :: after →
    ∀ m, live? (ofServer s.server before) = some m → (m.apply s.event).2 ≠ .overflowed .sum

theorem fits_iff {steps : List Step} :
    Fits steps ↔ ∀ i : Fin steps.length,
      (live? (ofServer steps[i].server (steps.take i))).all fun m : Match =>
        decide ((m.apply steps[i].event).2 ≠ .overflowed .sum) := by
  constructor
  · intro h i
    rw [Option.all_eq_true]
    intro m hm
    have hsplit : steps = steps.take i ++ steps[i] :: steps.drop (i + 1) := by simp
    exact decide_eq_true (h _ _ _ hsplit m hm)
  · rintro h before s after rfl m hm
    have hs := h ⟨before.length, by simp⟩
    simp only [Fin.getElem_fin, List.getElem_append_right (Nat.le_refl _), Nat.sub_self,
      List.getElem_cons_zero, List.take_left, hm, Option.all_some, decide_eq_true_eq] at hs
    exact hs

instance (steps : List Step) : Decidable (Fits steps) := decidable_of_iff _ fits_iff.symm

def Transition.created? : Transition → Option MatchId
  | .created id => some id
  | _ => none

def Transition.sealed? : Transition → Option Sealed
  | .sealed m => some m
  | _ => none

def createdIds (ts : List Transition) : List MatchId := ts.filterMap Transition.created?

def sealedIds (ts : List Transition) : List MatchId :=
  (ts.filterMap Transition.sealed?).map (·.id)

def transitionsOf (server : Int) (steps : List Step) (ts : List Transition) : List Transition :=
  ((steps.zip ts).filter (·.1.server = server)).map (·.2)

def transitions (before : List Step) : List Step → List Transition
  | [] => []
  | s :: rest => transition (ofServer s.server before) s :: transitions (before ++ [s]) rest

theorem ofServer_append (server : Int) (xs ys : List Step) :
    ofServer server (xs ++ ys) = ofServer server xs ++ ofServer server ys :=
  List.filter_append ..

theorem ofServer_concat_self (before : List Step) (s : Step) :
    ofServer s.server (before ++ [s]) = ofServer s.server before ++ [s] := by
  simp [ofServer]

theorem ofServer_concat_ne {server : Int} {s : Step} (h : s.server ≠ server)
    (before : List Step) : ofServer server (before ++ [s]) = ofServer server before := by
  simp [ofServer, h]

theorem ofServer_ofServer (server : Int) (steps : List Step) :
    ofServer server (ofServer server steps) = ofServer server steps := by
  simp [ofServer]

theorem map?_of_isTerminal {s : Step} (h : s.isTerminal = true) : s.map? = none := by
  unfold Step.isTerminal at h
  unfold Step.map?
  split
  next hk _ => rw [hk] at h; cases h
  next => rfl

theorem current_concat_terminal (own : List Step) {s : Step} (h : s.isTerminal = true) :
    current (own ++ [s]) = [] := by
  simp [current, h]

theorem current_concat_of_cons {own since : List Step} {o s : Step}
    (hc : current own = o :: since) (h : s.isTerminal = false) :
    current (own ++ [s]) = o :: (since ++ [s]) := by
  unfold current at hc ⊢
  rw [List.rtakeWhile_concat, if_pos (by simp [h]), List.dropWhile_append, hc]
  rfl

theorem current_concat_of_nil {own : List Step} {s : Step} (hc : current own = [])
    (h : s.isTerminal = false) :
    current (own ++ [s]) = if s.map?.isSome then [s] else [] := by
  unfold current at hc ⊢
  rw [List.rtakeWhile_concat, if_pos (by simp [h]), List.dropWhile_append, hc]
  cases hm : s.map? <;> simp [hm]

/-- The live steps of a server begin with a map load. -/
theorem map?_of_current {own since : List Step} {o : Step} (h : current own = o :: since) :
    ∃ map, o.map? = some map := by
  have hhead := List.head?_dropWhile_not (fun s : Step => s.map?.isNone)
    (own.rtakeWhile (!·.isTerminal))
  rw [← current, h] at hhead
  exact Option.isSome_iff_exists.1 (by simpa using hhead)

theorem absorb_append (m : Match) (es fs : List Event) :
    m.absorb (es ++ fs) = (m.absorb es).absorb fs :=
  List.foldl_append ..

theorem live?_eq_none_iff {own : List Step} : live? own = none ↔ current own = [] := by
  unfold live?
  cases hc : current own with
  | nil => simp
  | cons o since =>
    obtain ⟨map, hmap⟩ := map?_of_current hc
    simp [Step.opened?, hmap]

theorem live?_concat_terminal (own : List Step) {s : Step} (h : s.isTerminal = true) :
    live? (own ++ [s]) = none := by
  rw [live?_eq_none_iff, current_concat_terminal own h]

theorem live?_concat_of_none {own : List Step} {s : Step} (h : live? own = none) :
    live? (own ++ [s]) = s.opened? := by
  cases ht : s.isTerminal with
  | true => simp [live?_concat_terminal own ht, Step.opened?, map?_of_isTerminal ht]
  | false =>
    rw [live?, current_concat_of_nil (live?_eq_none_iff.1 h) ht]
    cases hm : s.map? <;> simp [Step.opened?, hm, absorb]

theorem live?_concat_of_some {own : List Step} {s : Step} {m : Match} (h : live? own = some m)
    (ht : s.isTerminal = false) : live? (own ++ [s]) = some (m.absorb [s.event]) := by
  cases hc : current own with
  | nil =>
    rw [live?_eq_none_iff.2 hc] at h
    cases h
  | cons o since =>
    rw [live?, hc] at h
    obtain ⟨m', hm', rfl⟩ := Option.map_eq_some_iff.1 h
    rw [live?, current_concat_of_cons hc ht]
    simp [hm', absorb_append]

theorem apply_of_rejected {m m' : Match} {e : Event} {cause : Rejection}
    (h : m.apply e = (m', .rejected cause)) : m' = m := by
  unfold apply at h
  split at h
  · cases h; rfl
  · split at h
    · cases h; rfl
    · split at h <;> cases h

/-- An event that does not overflow leaves what is left when rejected ones are skipped. -/
theorem absorb_singleton {m : Match} {e : Event} (h : (m.apply e).2 ≠ .overflowed .sum) :
    m.absorb [e] = (m.apply e).1 := by
  rcases hm : m.apply e with ⟨m', verdict⟩
  cases verdict with
  | accepted => simp [absorb, hm]
  | rejected cause => simp [absorb, hm, apply_of_rejected hm]
  | overflowed o =>
    cases o
    rw [hm] at h
    exact absurd rfl h

/-- An event is skipped, or its effect is performed. -/
theorem absorb_eq_or (m : Match) (e : Event) :
    m.absorb [e] = m ∨ ∃ eff, effect e = .ok eff ∧ m.absorb [e] = (m.perform eff).1 := by
  rcases hm : m.apply e with ⟨m', verdict⟩
  cases verdict with
  | rejected cause => exact .inl (by simp [absorb, hm])
  | overflowed o => exact .inl (by simp [absorb, hm])
  | accepted =>
    have habsorb : m.absorb [e] = m' := by simp [absorb, hm]
    unfold apply at hm
    split at hm
    · cases hm
    · split at hm
      next => cases hm
      next eff heff =>
        split at hm
        next hperform =>
          cases hm
          exact .inr ⟨eff, heff, by rw [habsorb, hperform]⟩
        next => cases hm

theorem ofServer_eq_append_cons {server : Int} {before pre mid : List Step} {o : Step}
    (h : ofServer server before = pre ++ o :: mid) :
    ∃ p m, before = p ++ o :: m ∧ o.server = server ∧ ofServer server p = pre ∧
      ofServer server m = mid := by
  obtain ⟨l, r, rfl, hl, hr⟩ := List.filter_eq_append_iff.1 h
  obtain ⟨k, m, rfl, hk, ho, hm⟩ := List.filter_eq_cons_iff.1 hr
  refine ⟨l ++ k, m, by simp, by simpa using ho, ?_, hm⟩
  have hk' : ofServer server k = [] := List.filter_eq_nil_iff.2 hk
  rw [ofServer_append, hk', List.append_nil]
  exact hl

theorem Fits.ofServer {steps : List Step} (h : Fits steps) (server : Int) :
    Fits (ofServer server steps) := by
  intro before s after heq m hm
  obtain ⟨p, r, rfl, hs, rfl, -⟩ := ofServer_eq_append_cons heq
  subst hs
  rw [ofServer_ofServer] at hm
  exact h p s r rfl m hm

theorem transitionsOf_transitions (server : Int) (before steps : List Step) :
    transitionsOf server steps (transitions before steps) =
      transitions (ofServer server before) (ofServer server steps) := by
  induction steps generalizing before with
  | nil => rfl
  | cons s rest ih =>
    have hrest := ih (before ++ [s])
    by_cases hs : s.server = server
    · subst hs
      rw [ofServer_concat_self] at hrest
      have hcons : ofServer s.server (s :: rest) = s :: ofServer s.server rest := by simp [ofServer]
      rw [hcons, transitions, transitions, ofServer_ofServer, ← hrest]
      simp [transitionsOf]
    · rw [ofServer_concat_ne hs] at hrest
      have hcons : ofServer server (s :: rest) = ofServer server rest := by simp [ofServer, hs]
      rw [hcons, transitions, ← hrest]
      simp [transitionsOf, hs]

theorem length_transitions (before steps : List Step) :
    (transitions before steps).length = steps.length := by
  induction steps generalizing before with
  | nil => rfl
  | cons s rest ih => simp [transitions, ih]

theorem transitions_append (before xs ys : List Step) :
    transitions before (xs ++ ys) = transitions before xs ++ transitions (before ++ xs) ys := by
  induction xs generalizing before with
  | nil => simp [transitions]
  | cons x xs ih => simp [transitions, ih]

theorem getElem?_transitions (before : List Step) (s : Step) (after : List Step) :
    (transitions [] (before ++ s :: after))[before.length]? =
      some (transition (ofServer s.server before) s) := by
  rw [transitions_append, List.getElem?_append_right (by rw [length_transitions]),
    length_transitions]
  simp [transitions]

/-- The live steps of a server follow steps that leave no match. -/
theorem eq_append_of_current {own since : List Step} {o : Step} (h : current own = o :: since) :
    ∃ pre, own = pre ++ o :: since ∧ live? pre = none ∧ ∀ x ∈ since, x.isTerminal = false := by
  -- `current` grows at its end, so the induction takes the last step off
  induction own using List.reverseRecOn generalizing since with
  | nil => cases h
  | append_singleton own s ih =>
    cases ht : s.isTerminal with
    | true =>
      rw [current_concat_terminal own ht] at h
      cases h
    | false =>
      cases hc : current own with
      | nil =>
        rw [current_concat_of_nil hc ht] at h
        split at h
        · cases h
          exact ⟨own, rfl, live?_eq_none_iff.2 hc, by simp⟩
        · cases h
      | cons o' since' =>
        rw [current_concat_of_cons hc ht] at h
        cases h
        obtain ⟨pre, hown, hpre, hsince⟩ := ih hc
        refine ⟨pre, by simp [hown], hpre, fun x hx => ?_⟩
        obtain hx | hx := List.mem_append.1 hx
        · exact hsince x hx
        · rw [List.mem_singleton.1 hx, ht]

/-- A match is sealed by the first terminal step since it was opened. -/
theorem transition_sealed {own : List Step} {s : Step} {result : Sealed}
    (h : transition own s = .sealed result) :
    s.isTerminal = true ∧ ∃ pre o since map, own = pre ++ o :: since ∧ live? pre = none ∧
      o.map? = some map ∧ (∀ x ∈ since, x.isTerminal = false) ∧
      result = ((start o.fresh o.event.origin map o.now).absorb
        ((since ++ [s]).map (·.event))).finish s.now := by
  cases hc : current own with
  | nil =>
    rw [transition, live?_eq_none_iff.2 hc] at h
    simp only at h
    split at h <;> cases h
  | cons o since =>
    obtain ⟨map, hmap⟩ := map?_of_current hc
    obtain ⟨pre, hown, hpre, hsince⟩ := eq_append_of_current hc
    simp only [transition, live?, hc, Step.opened?, hmap, Option.map_some] at h
    split at h
    next ht =>
      cases h
      exact ⟨ht, pre, o, since, map, hown, hpre, hmap, hsince, by simp [absorb_append]⟩
    next => cases h

structure SameMatch (m m' : Match) : Prop where
  id : m'.id = m.id
  server : m'.server = m.server
  createdAt : m'.createdAt = m.createdAt

theorem SameMatch.refl (m : Match) : SameMatch m m := ⟨rfl, rfl, rfl⟩

theorem SameMatch.trans {m₁ m₂ m₃ : Match} (h : SameMatch m₁ m₂) (k : SameMatch m₂ m₃) :
    SameMatch m₁ m₃ :=
  ⟨k.id.trans h.id, k.server.trans h.server, k.createdAt.trans h.createdAt⟩

/-- Counting changes nothing but the totals. -/
theorem exists_count (m : Match) (c : Credit) :
    ∃ teams players, (m.count c).1 = { m with teams, players } := by
  cases c with
  | team t s n =>
    simp only [count]
    split <;> exact ⟨_, _, rfl⟩
  | player p s n =>
    simp only [count, enroll]
    split
    · split <;> exact ⟨_, _, rfl⟩
    · exact ⟨_, _, rfl⟩

theorem exists_countAll (m : Match) (cs : List Credit) :
    ∃ teams players, (m.countAll cs).1 = { m with teams, players } := by
  induction cs generalizing m with
  | nil => exact ⟨_, _, rfl⟩
  | cons c cs ih =>
    obtain ⟨teams, players, hc⟩ := exists_count m c
    unfold countAll
    split
    next m' hm =>
      rw [hm] at hc
      have hm' : m' = { m with teams, players } := hc
      obtain ⟨teams', players', hcs⟩ := ih m'
      exact ⟨teams', players', by rw [hcs, hm']⟩
    next m' o hm =>
      rw [hm] at hc
      exact ⟨teams, players, hc⟩

theorem sameMatch_countAll (m : Match) (cs : List Credit) : SameMatch m (m.countAll cs).1 := by
  obtain ⟨teams, players, h⟩ := exists_countAll m cs
  rw [h]
  exact ⟨rfl, rfl, rfl⟩

theorem sameMatch_apply (m : Match) (e : Event) : SameMatch m (m.apply e).1 := by
  have hperform : ∀ eff : Effect, SameMatch m (m.perform eff).1 := by
    intro eff
    cases eff with
    | credit cs => exact sameMatch_countAll m cs
    | rename map => exact ⟨rfl, rfl, rfl⟩
    | openRound startedAt => exact ⟨rfl, rfl, rfl⟩
    | closeRound endedAt winner score => exact ⟨rfl, rfl, rfl⟩
  unfold apply
  split
  · exact SameMatch.refl m
  · split
    next => exact SameMatch.refl m
    next eff _ =>
      have heff := hperform eff
      split
      next m' hm =>
        rw [hm] at heff
        exact heff
      next m' o hm =>
        rw [hm] at heff
        exact heff

theorem sameMatch_absorb (m : Match) (es : List Event) : SameMatch m (m.absorb es) := by
  induction es generalizing m with
  | nil => exact SameMatch.refl m
  | cons e es ih =>
    have he := sameMatch_apply m e
    have hcons : m.absorb (e :: es) = (m.absorb [e]).absorb es := absorb_append m [e] es
    rw [hcons]
    refine SameMatch.trans ?_ (ih _)
    rcases hm : m.apply e with ⟨m', verdict⟩
    rw [hm] at he
    cases verdict with
    | accepted => simpa [absorb, hm] using he
    | rejected cause => simpa [absorb, hm] using SameMatch.refl m
    | overflowed o => simpa [absorb, hm] using SameMatch.refl m

end Moderation.Match
