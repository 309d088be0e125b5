import Moderation.Proofs.Match.Interleaving
/-!
The order of rounds. If the events that a book handles are in order, apart from those of unknown
kind, then so are the rounds of every match that it seals.
-/
namespace Moderation.Match
open Number Time

/-- Rounds that end after they start, none of which starts or ends before the end of an earlier
one. -/
structure Successive (rs : List Round) : Prop where
  lasts : ∀ r ∈ rs, ∀ s ∈ r.startedAt, s ≤ r.endedAt
  follows : rs.Pairwise fun r next =>
    (∀ s ∈ next.startedAt, r.endedAt ≤ s) ∧ r.endedAt ≤ next.endedAt

def knownTimes (es : List Event) : List Stamp :=
  (es.filter (·.kind ≠ .unknown)).map (·.occurredAt)

theorem knownTimes_cons_of_unknown {e : Event} (h : e.kind = .unknown) (es : List Event) :
    knownTimes (e :: es) = knownTimes es := by
  simp [knownTimes, h]

theorem knownTimes_cons_of_ne {e : Event} (h : e.kind ≠ .unknown) (es : List Event) :
    knownTimes (e :: es) = e.occurredAt :: knownTimes es := by
  simp [knownTimes, h]

structure Punctual (m : Match) (times : List Stamp) : Prop where
  rounds : Successive m.rounds
  ended : ∀ r ∈ m.rounds, (∀ s ∈ m.openRound, r.endedAt ≤ s) ∧ ∀ t ∈ times, r.endedAt ≤ t
  started : ∀ s ∈ m.openRound, ∀ t ∈ times, s ≤ t

def Effect.date? : Effect → Option Stamp
  | .openRound startedAt => some startedAt
  | .closeRound endedAt _ _ => some endedAt
  | _ => none

theorem date_of_effect {e : Event} {eff : Effect} (h : effect e = .ok eff) :
    ∀ t ∈ eff.date?, e.kind ≠ .unknown ∧ t = e.occurredAt := by
  unfold effect at h
  split at h
  next =>
    cases h
    nofun
  next hk =>
    cases h
    rintro t ⟨⟩
    exact ⟨by simp [hk], rfl⟩
  next hk _ =>
    cases h
    rintro t ⟨⟩
    exact ⟨by simp [hk], rfl⟩
  next =>
    obtain ⟨attacker, -, h⟩ := bind_eq_ok h
    cases h
    nofun
  next =>
    obtain ⟨p, -, h⟩ := bind_eq_ok h
    obtain ⟨n, -, h⟩ := bind_eq_ok h
    cases h
    nofun
  next =>
    obtain ⟨p, -, h⟩ := bind_eq_ok h
    obtain ⟨n, -, h⟩ := bind_eq_ok h
    cases h
    nofun
  next =>
    obtain ⟨p, -, h⟩ := bind_eq_ok h
    cases h
    nofun
  all_goals cases h
  all_goals nofun

/-- `later` is what is left of the `times` to come once an event has been handled. -/
structure Passes (e : Event) (times later : List Stamp) : Prop where
  remain : later ⊆ times
  dated : e.kind ≠ .unknown → e.occurredAt ∈ times ∧ ∀ t ∈ later, e.occurredAt ≤ t

theorem passes_cons {e : Event} {es : List Event}
    (h : (knownTimes (e :: es)).Pairwise (· ≤ ·)) :
    Passes e (knownTimes (e :: es)) (knownTimes es) ∧ (knownTimes es).Pairwise (· ≤ ·) := by
  by_cases hk : e.kind = .unknown
  · rw [knownTimes_cons_of_unknown hk] at h ⊢
    exact ⟨⟨List.Subset.refl _, fun hne => absurd hk hne⟩, h⟩
  · rw [knownTimes_cons_of_ne hk] at h ⊢
    obtain ⟨hfirst, hrest⟩ := List.pairwise_cons.1 h
    exact ⟨⟨List.subset_cons_self .., fun _ => ⟨List.mem_cons_self .., hfirst⟩⟩, hrest⟩

namespace Punctual
variable {m : Match} {times later : List Stamp}

theorem start (id : MatchId) (server : Server) (map : String) (createdAt : Instant)
    (times : List Stamp) : Punctual (.start id server map createdAt) times :=
  ⟨⟨nofun, .nil⟩, nofun, nofun⟩

theorem mono (h : Punctual m times) (hlater : later ⊆ times) : Punctual m later :=
  ⟨h.rounds, fun r hr => ⟨(h.ended r hr).1, fun t ht => (h.ended r hr).2 t (hlater ht)⟩,
    fun s hs t ht => h.started s hs t (hlater ht)⟩

theorem perform {eff : Effect} (h : Punctual m times) (hlater : later ⊆ times)
    (hdate : ∀ t ∈ eff.date?, t ∈ times ∧ ∀ u ∈ later, t ≤ u) :
    Punctual (m.perform eff).1 later := by
  have hm := h.mono hlater
  cases eff with
  | rename map => exact ⟨hm.rounds, hm.ended, hm.started⟩
  | credit cs =>
    obtain ⟨teams, players, heq⟩ := exists_countAll m cs
    rw [Match.perform, heq]
    exact ⟨hm.rounds, hm.ended, hm.started⟩
  | openRound t =>
    obtain ⟨ht, hbefore⟩ := hdate t rfl
    refine ⟨h.rounds, fun r hr => ⟨?_, (hm.ended r hr).2⟩, ?_⟩
    · rintro s ⟨⟩
      exact (h.ended r hr).2 t ht
    · rintro s ⟨⟩
      exact hbefore
  | closeRound t winner score =>
    obtain ⟨ht, hbefore⟩ := hdate t rfl
    -- the round under way is over now and comes after all others
    refine ⟨⟨?_, ?_⟩, ?_, nofun⟩
    · intro r hr
      rcases List.mem_append.1 hr with hr | hr
      · exact h.rounds.lasts r hr
      · cases List.mem_singleton.1 hr
        exact fun s hs => h.started s hs t ht
    · refine List.pairwise_append.2 ⟨h.rounds.follows, List.pairwise_singleton .., ?_⟩
      intro r hr next hnext
      cases List.mem_singleton.1 hnext
      exact ⟨(h.ended r hr).1, (h.ended r hr).2 t ht⟩
    · intro r hr
      rcases List.mem_append.1 hr with hr | hr
      · exact ⟨nofun, (hm.ended r hr).2⟩
      · cases List.mem_singleton.1 hr
        exact ⟨nofun, hbefore⟩

theorem absorb {e : Event} (h : Punctual m times) (hpass : Passes e times later) :
    Punctual (m.absorb [e]) later := by
  obtain heq | ⟨eff, heff, heq⟩ := absorb_eq_or m e
  · rw [heq]
    exact h.mono hpass.remain
  · rw [heq]
    refine h.perform hpass.remain fun t ht => ?_
    obtain ⟨hk, rfl⟩ := date_of_effect heff t ht
    exact hpass.dated hk

end Punctual

namespace Book

/-- What is sealed by steps, up to the first overflow. -/
def sealedBy (b : Book) : List Step → List Sealed
  | [] => []
  | s :: rest =>
    match b.handle s.fresh s.now s.event with
    | .ok (t, b) => t.sealed?.toList ++ b.sealedBy rest
    | .error _ => []

/-- A run without overflow seals what its transitions tell. -/
theorem sealedBy_of_run {b b' : Book} {steps : List Step} {ts : List Transition}
    (h : b.run steps = .ok (ts, b')) : b.sealedBy steps = ts.filterMap Transition.sealed? := by
  induction steps generalizing b ts with
  | nil =>
    cases h
    rfl
  | cons s rest ih =>
    obtain ⟨⟨t, b₁⟩, hstep, h⟩ := bind_eq_ok h
    obtain ⟨⟨ts', b₂⟩, hrest, h⟩ := bind_eq_ok h
    cases h
    rw [sealedBy, hstep]
    cases hs : t.sealed? <;> simp [hs, ih hrest]

theorem handle_of_overflow {b : Book} {s : Step} {m : Match} (hlive : b.live.get? s.server = some m)
    {o : Overflow} (hover : (m.apply s.event).2 = .overflowed o) :
    b.handle s.fresh s.now s.event = .error o := by
  rcases hm : m.apply s.event with ⟨m', verdict⟩
  rw [hm] at hover
  cases hover
  unfold Step.server at hlive
  simp only [handle, hlive, hm]

theorem handles_of_handle {b b' : Book} {s : Step} {t : Transition}
    (h : b.handle s.fresh s.now s.event = .ok (t, b')) : Handles b s t b' := by
  have hstep : ∃ t b', b.handle s.fresh s.now s.event = .ok (t, b') ∧ Handles b s t b' := by
    cases hlive : b.live.get? s.server with
    | none => exact handle_of_none hlive
    | some m =>
      refine handle_of_some hlive fun hover => ?_
      rw [handle_of_overflow hlive hover] at h
      cases h
  obtain ⟨t', b'', hhandle, hs⟩ := hstep
  rw [h] at hhandle
  cases hhandle
  exact hs

/-- What a step keeps, and what holds of the match that it opens, holds of every live match after
it; what it makes of a match holds of the one that it seals. -/
theorem Handles.forall_live {b b' : Book} {s : Step} {t : Transition} {P Q : Match → Prop}
    (h : Handles b s t b') (hb : ∀ server m, b.live.get? server = some m → P m)
    (hkeep : ∀ m, P m → Q m) (hstart : ∀ map, Q (.start s.fresh s.event.origin map s.now))
    (habsorb : ∀ m, P m → Q (m.absorb [s.event])) :
    (∀ server m, b'.live.get? server = some m → Q m) ∧
      ∀ result ∈ t.sealed?, ∃ m, Q m ∧ result = m.finish s.now := by
  have hold : ∀ server m, b.live.get? server = some m → Q m := fun server m hm =>
    hkeep m (hb server m hm)
  have hinsert : ∀ m, Q m → ∀ server m', (b.live.insert s.server m).get? server = some m' →
      Q m' := by
    intro m hm server m' hlive
    rw [Table.get?_insert] at hlive
    split at hlive
    · cases hlive
      exact hm
    · exact hold server m' hlive
  cases h with
  | discards hlive hmap => exact ⟨hold, by rintro _ ⟨⟩⟩
  | opens hlive hmap => exact ⟨hinsert _ (hstart _), by rintro _ ⟨⟩⟩
  | applies hlive ht => exact ⟨hinsert _ (habsorb _ (hb _ _ hlive)), by rintro _ ⟨⟩⟩
  | seals hlive ht =>
    refine ⟨fun server m' hm' => ?_, ?_⟩
    · rw [Table.get?_erase] at hm'
      split at hm'
      · cases hm'
      · exact hold server m' hm'
    · rintro result ⟨⟩
      exact ⟨_, habsorb _ (hb _ _ hlive), rfl⟩

/-- What holds of every new match, and of what an event makes of a match, holds of all that are
sealed. -/
theorem forall_sealedBy {P : Match → Prop}
    (hstart : ∀ id server map now, P (.start id server map now))
    (habsorb : ∀ m e, P m → P (m.absorb [e])) {b : Book} {steps : List Step}
    (hb : ∀ server m, b.live.get? server = some m → P m) :
    ∀ result ∈ b.sealedBy steps, ∃ m now, P m ∧ result = m.finish now := by
  induction steps generalizing b with
  | nil => nofun
  | cons s rest ih =>
    unfold Book.sealedBy
    split
    next t b' hhandle =>
      obtain ⟨hb', hsealed⟩ := (handles_of_handle hhandle).forall_live hb (fun m hm => hm)
        (fun map => hstart ..) fun m hm => habsorb m s.event hm
      intro result hresult
      rcases List.mem_append.1 hresult with hnow | hlater
      · obtain ⟨m, hm, heq⟩ := hsealed result (Option.mem_toList.1 hnow)
        exact ⟨m, s.now, hm, heq⟩
      · exact ih hb' result hlater
    next => nofun

def OnTime (b : Book) (times : List Stamp) : Prop :=
  ∀ server m, b.live.get? server = some m → Punctual m times

theorem onTime_empty (times : List Stamp) : empty.OnTime times := nofun

theorem Handles.onTime {b b' : Book} {s : Step} {t : Transition} {times later : List Stamp}
    (h : Handles b s t b') (hb : b.OnTime times) (hpass : Passes s.event times later) :
    b'.OnTime later ∧ ∀ result ∈ t.sealed?, Successive result.rounds := by
  obtain ⟨hb', hsealed⟩ := h.forall_live hb (fun m hm => hm.mono hpass.remain)
    (fun map => Punctual.start ..) fun m hm => hm.absorb hpass
  refine ⟨hb', fun result hresult => ?_⟩
  obtain ⟨m, hm, rfl⟩ := hsealed result hresult
  exact hm.rounds

theorem OnTime.sealedBy {b : Book} {steps : List Step}
    (hb : b.OnTime (knownTimes (steps.map (·.event))))
    (horder : (knownTimes (steps.map (·.event))).Pairwise (· ≤ ·)) :
    ∀ result ∈ b.sealedBy steps, Successive result.rounds := by
  -- the live matches are punctual for the events that are still to come
  induction steps generalizing b with
  | nil => nofun
  | cons s rest ih =>
    obtain ⟨hpass, hrest⟩ := passes_cons horder
    unfold Book.sealedBy
    split
    next t b' hhandle =>
      obtain ⟨hb', hsealed⟩ := (handles_of_handle hhandle).onTime hb hpass
      intro result hresult
      rcases List.mem_append.1 hresult with hnow | hlater
      · exact hsealed result (Option.mem_toList.1 hnow)
      · exact ih hb' hrest result hlater
    next => nofun

end Book
end Moderation.Match
