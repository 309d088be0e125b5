import Moderation.Proofs.Text.Numeral
import Moderation.Warning.Engine
/-!
A warning engine at its desk, next to other tasks that use the same pool and the same outbox: what
can happen there, and what each event leads to.
-/
namespace Moderation.Warning
open Notice Text Time Worker

structure Setup where
  policy : Policy
  filters : List Filter
  services : Services
  workers : Nat
  poolCapacity : Nat
  outgoingCapacity : Nat

structure Handled where
  event : Event
  now : Instant
  dated : Instant
  before : Desk
  after : Desk
  outcome : Option Outcome

structure Done where
  job : Job
  before : Services
  after : Services

/-- A desk and what has happened there; `foreign` are the jobs of other tasks. -/
structure Scene where
  desk : Desk
  handled : List Handled
  done : List Done
  foreign : List Job

/-- What can happen next. Other tasks hand in jobs and notices, and the services change. -/
inductive Move where
  | handle (e : Event) (now dated : Instant)
  | sweep (now : Instant)
  | place (j : Job)
  | post (n : Notice)
  | send
  | take
  | carryOut (h : Hand) (now : Instant)
  | change (s : Services)
  | stop

namespace Move

def event? : Move → Option (Event × Instant × Instant)
  | handle e now dated => some (e, now, dated)
  | _ => none

def job? : Move → Option Job
  | place j => some j
  | _ => none

end Move

namespace Scene

def start (u : Setup) : Scene :=
  ⟨⟨.start u.policy u.filters, .start u.services u.workers u.poolCapacity u.outgoingCapacity
    u.policy.externalUrl⟩, [], [], []⟩

def step (s : Scene) : Move → Scene
  | .handle e now dated =>
    let (outcome, desk) := s.desk.handle e now dated
    { s with desk, handled := s.handled ++ [⟨e, now, dated, s.desk, desk, outcome⟩] }
  | .sweep now => { s with desk := (s.desk.sweep now).2 }
  | .place j => { s with desk.office := s.desk.office.place j, foreign := s.foreign ++ [j] }
  | .post n => { s with desk.office := s.desk.office.post n }
  | .send => { s with desk.office.outgoing :=
      ((Queue.take? s.desk.office.outgoing).map (·.2)).getD s.desk.office.outgoing }
  | .take => { s with desk.office.pool :=
      (s.desk.office.pool.take?.map (·.2.2)).getD s.desk.office.pool }
  | .carryOut h now =>
    let o := s.desk.office
    { s with
      desk.office := ((o.pool.job? h).map (o.carryOut now h)).getD o
      done := s.done ++ (o.pool.job? h).toList.map fun j =>
        ⟨j, o.services, (j.carryOut o.services).2⟩ }
  | .change services => { s with desk.office.services := services }
  | .stop => { s with desk.office.pool := s.desk.office.pool.stop }

def run (s : Scene) (moves : List Move) : Scene := moves.foldl step s

theorem run_concat (s : Scene) (moves : List Move) (move : Move) :
    s.run (moves ++ [move]) = (s.run moves).step move := by
  simp [run]

def IsQuiet (s : Scene) : Prop :=
  s.desk.office.pool.isStaffed = true ∧ s.desk.office.pool.running = [] ∧
    s.desk.office.pool.queue.items = []

instance (s : Scene) : Decidable s.IsQuiet := inferInstanceAs (Decidable (_ ∧ _ ∧ _))

end Scene

/-- A chat message of a player with a valid steam id that some filter matches. -/
def Offends (filters : List Filter) (e : Event) : Prop :=
  (e.kind = .say ∨ e.kind = .sayTeam) ∧ ∃ player message,
    e.actor = some player ∧ player.steamId.Valid ∧ e.payload = .say message ∧ message ≠ "" ∧
      ∃ f ∈ filters, (f.matcher.find? message (words message)).isSome = true

def Handled.request? (p : Policy) (h : Handled) : Option Ban.Request :=
  match h.outcome, h.event.actor with
  | some (.escalated _), some player =>
    some ⟨player.steamId, p.authority, .language, note, p.action, p.length, some h.event.origin,
      h.now⟩
  | _, _ => none

/-- A text that counts the warnings so far. -/
def Counts (text : String) (n : Nat) : Prop :=
  ∃ rest, text.toList = "[WARN #".toList ++ digits n ++ ']' :: rest

/-- The number of warnings can be read off the text of each. -/
theorem counts_warningText {n k : Nat} : Counts (warningText n) k ↔ k = n := by
  have htext : Counts (warningText n) n := ⟨_, by simp [warningText, showNat]; rfl⟩
  constructor
  · rintro ⟨rest, hk⟩
    obtain ⟨rest', hn⟩ := htext
    rw [hn, List.append_assoc, List.append_assoc] at hk
    have hmark : isDigit ']' = false := by decide
    exact (digits_append_cons_inj hmark (List.append_cancel_left hk)).1.symm
  · rintro rfl
    exact htext

structure Handled.Reacts (h : Handled) (u : Setup) (out : Outcome) (player : Player)
    (message : String) (found : Found) (job : Job) (notice : Notice) : Prop where
  gives : h.outcome = some out
  actor : h.event.actor = some player
  speaks : h.event.payload = .say message
  finds : find? u.filters message = some found
  records : h.before.engine.tracker.record player.steamId
    ⟨.language, message, found.matched, found.filterId, found.pattern, h.now⟩ =
      (out, h.after.engine.tracker)
  warns : ∀ n, out = .warned n →
    job = .tell h.event.origin (.psay player.steamId (warningText n)) ∧
      ∀ k, Counts (warningText n) k ↔ k = n
  acts : ∀ ws, out = .escalated ws → ∃ r, h.request? u.policy = some r ∧ job = .act r
  submits : h.after.office =
    (h.before.office.placeAll [.countTrigger found.filterId, job]).post notice
  channel : notice.channel = .modLog

theorem find?_isSome (filters : List Filter) (message : String) :
    (find? filters message).isSome = true ↔
      ∃ f ∈ filters, (f.matcher.find? message (words message)).isSome = true := by
  simp [find?, List.findSome?_isSome_iff]

theorem offence?_eq_some {g : Engine} {e : Event} {o : Offence} (h : g.offence? e = some o) :
    (e.kind = .say ∨ e.kind = .sayTeam) ∧ e.actor = some o.player ∧ o.player.steamId.Valid ∧
      e.payload = .say o.message ∧ o.message ≠ "" ∧ find? g.filters o.message = some o.found := by
  unfold Engine.offence? at h
  by_cases hk : e.kind.isChat = true
  · have hkind : e.kind = .say ∨ e.kind = .sayTeam := by
      cases hk' : e.kind <;> simp [hk', EventKind.isChat] at hk ⊢
    simp only [hk, Bool.not_true, Bool.false_eq_true, if_false] at h
    obtain ⟨player, hactor, h⟩ := Option.bind_eq_some_iff.1 h
    by_cases hv : player.steamId.Valid
    · rw [if_neg (not_not_intro hv)] at h
      obtain ⟨message, hm, h⟩ := Option.bind_eq_some_iff.1 h
      obtain ⟨found, hfound, h⟩ := Option.bind_eq_some_iff.1 h
      cases h
      unfold Event.message? at hm
      split at hm
      next m hp =>
        split at hm
        · cases hm
        next hne =>
          cases hm
          exact ⟨hkind, hactor, hv, hp, hne, hfound⟩
      next => cases hm
    · rw [if_pos hv] at h
      cases h
  · simp [hk] at h

theorem offence?_of_offends {g : Engine} {e : Event} (h : Offends g.filters e) :
    ∃ o, g.offence? e = some o := by
  obtain ⟨hkind, player, message, hactor, hv, hp, hne, hf⟩ := h
  obtain ⟨found, hfound⟩ := Option.isSome_iff_exists.1 ((find?_isSome _ _).2 hf)
  have hk : e.kind.isChat = true := by rcases hkind with hk | hk <;> rw [hk] <;> rfl
  refine ⟨⟨player, message, found⟩, ?_⟩
  simp [Engine.offence?, Event.message?, hk, hactor, hv, hp, hne, hfound]

namespace Desk
variable {d : Desk} {e : Event} {now dated : Instant}

theorem handle_of_none (h : d.engine.offence? e = none) : d.handle e now dated = (none, d) := by
  simp [handle, Engine.handle, h]

theorem handle_of_some {o : Offence} (h : d.engine.offence? e = some o) :
    d.handle e now dated =
      let (out, tracker) := d.engine.tracker.record o.player.steamId (o.warning now)
      (some out, ⟨{ d.engine with tracker }, (d.office.placeAll [.countTrigger o.found.filterId,
        out.job d.engine.policy o e.origin now]).post
          (out.notice d.engine.policy o e.origin now dated)⟩) := by
  simp [handle, Engine.handle, h]

theorem handle_isSome (d : Desk) (e : Event) (now dated : Instant) :
    (d.handle e now dated).1.isSome = true ↔ Offends d.engine.filters e := by
  constructor
  · intro h
    cases ho : d.engine.offence? e with
    | none => simp [handle_of_none ho] at h
    | some o =>
      obtain ⟨hkind, hactor, hv, hp, hne, hfound⟩ := offence?_eq_some ho
      exact ⟨hkind, o.player, o.message, hactor, hv, hp, hne,
        (find?_isSome _ _).1 (Option.isSome_iff_exists.2 ⟨_, hfound⟩)⟩
  · intro h
    obtain ⟨o, ho⟩ := offence?_of_offends h
    simp [handle_of_some ho]

end Desk

structure Handled.Belongs (h : Handled) (u : Setup) : Prop where
  policy : h.before.engine.policy = u.policy
  filters : h.before.engine.filters = u.filters
  handle : h.before.handle h.event h.now h.dated = (h.outcome, h.after)

namespace Handled.Belongs
variable {h : Handled} {u : Setup}

theorem isSome (hb : h.Belongs u) : h.outcome.isSome = true ↔ Offends u.filters h.event := by
  have hiff := h.before.handle_isSome h.event h.now h.dated
  rw [hb.handle, hb.filters] at hiff
  exact hiff

theorem reacts (hb : h.Belongs u) {out : Outcome} (ho : h.outcome = some out) :
    ∃ player message found job notice,
      h.Reacts u out player message found job notice := by
  have hhandle := hb.handle
  cases hoff : h.before.engine.offence? h.event with
  | none =>
    rw [Desk.handle_of_none hoff, ho] at hhandle
    cases congrArg Prod.fst hhandle
  | some o =>
    obtain ⟨-, hactor, -, hp, -, hfound⟩ := offence?_eq_some hoff
    rw [Desk.handle_of_some hoff, ho] at hhandle
    have hout : (h.before.engine.tracker.record o.player.steamId (o.warning h.now)).1 = out :=
      Option.some_inj.1 (congrArg Prod.fst hhandle)
    have hafter := congrArg Prod.snd hhandle
    simp only at hafter
    refine ⟨o.player, o.message, o.found, out.job u.policy o h.event.origin h.now,
      out.notice u.policy o h.event.origin h.now h.dated, ?_⟩
    refine ⟨ho, hactor, hp, hb.filters ▸ hfound, ?_, ?_, ?_, ?_, rfl⟩
    · rw [← hafter, ← hout]
      rfl
    · rintro n rfl
      exact ⟨rfl, fun k => counts_warningText⟩
    · rintro ws rfl
      refine ⟨o.request u.policy h.event.origin h.now, ?_, rfl⟩
      simp [request?, ho, hactor, Offence.request]
    · rw [← hafter, ← hout, ← hb.policy]

end Handled.Belongs

end Moderation.Warning
