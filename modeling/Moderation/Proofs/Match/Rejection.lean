import Moderation.Proofs.Match.Live
import Moderation.Proofs.Match.Reported
/-!
Rejected events. A match tests the server, the payload, the actor and the amount of an event, in
this order, and rejects the event for the first test that fails. It is then as it was before.
-/
namespace Moderation
open Time

namespace EventKind

def needsPayload : EventKind → Bool
  | mapLoad => true
  | roundEnd => true
  | kill => true
  | damage => true
  | heal => true
  | medicDeath => true
  | _ => false

def needsActor : EventKind → Bool
  | kill => true
  | damage => true
  | heal => true
  | chargeDeployed => true
  | _ => false

end EventKind

namespace Match

/-- What is wrong with an event for every match, in the order of the tests. -/
def flaws (e : Event) : List Rejection :=
  (if e.kind.needsPayload = true ∧ e.kind.carries e.payload = false then
    [.payloadMismatch e.kind] else []) ++
  (if e.kind.needsActor = true ∧ e.actor = none then [.missingActor e.kind] else []) ++
  match e.amount? with
  | some n => if n < 0 then [.negativeAmount e.kind n] else []
  | none => []

/-- What is wrong with an event for the match, in the order of the tests. -/
def faults (m : Match) (e : Event) : List Rejection :=
  (if e.origin.id ≠ m.server.id then [.wrongServer m.server.id e.origin.id] else []) ++ flaws e

def Verdict.cause? : Verdict → Option Rejection
  | .rejected cause => some cause
  | _ => none

theorem Verdict.cause?_eq_some_iff {v : Verdict} {cause : Rejection} :
    v.cause? = some cause ↔ v = .rejected cause := by
  cases v <;> simp [cause?]

def error? {ε α : Type} : Except ε α → Option ε
  | .error cause => some cause
  | .ok _ => none

@[simp] theorem error?_error {ε α : Type} (cause : ε) :
    error? (.error cause : Except ε α) = some cause := rfl

@[simp] theorem error?_pure {ε α : Type} (a : α) : error? (pure a : Except ε α) = none := rfl

@[simp] theorem error?_map {ε α β : Type} (x : Except ε α) (f : α → β) :
    error? (f <$> x) = error? x := by
  cases x <;> rfl

theorem error?_actor (e : Event) :
    error? (actor e) = if e.actor = none then some (.missingActor e.kind) else none := by
  unfold actor
  cases e.actor <;> rfl

theorem error?_actor_bind {α : Type} (e : Event) (f : Player → Except Rejection α) :
    error? (actor e >>= f) =
      e.actor.elim (some (.missingActor e.kind)) fun p => error? (f p) := by
  unfold actor
  cases e.actor <;> rfl

theorem error?_natural (e : Event) (n : Int) :
    error? (natural e n) = if n < 0 then some (.negativeAmount e.kind n) else none := by
  unfold natural
  split <;> rfl

/-- A payload of another variant is the first thing wrong with an event. -/
theorem head?_flaws_of_mismatch {e : Event} (hneeds : e.kind.needsPayload = true)
    (hcarries : e.kind.carries e.payload = false) :
    (flaws e).head? = some (.payloadMismatch e.kind) := by
  simp [flaws, hneeds, hcarries]

/-- Otherwise it is a missing actor, if one is needed, or else the amount. -/
theorem head?_flaws_of_match {e : Event}
    (hcarries : e.kind.needsPayload = true → e.kind.carries e.payload = true) :
    (flaws e).head? =
      if e.kind.needsActor = true ∧ e.actor = none then some (.missingActor e.kind)
      else e.amount?.bind fun n => if n < 0 then some (.negativeAmount e.kind n) else none := by
  have hfirst : ¬ (e.kind.needsPayload = true ∧ e.kind.carries e.payload = false) := by
    rintro ⟨hneeds, hno⟩
    rw [hcarries hneeds] at hno
    cases hno
  rw [flaws, if_neg hfirst, List.nil_append]
  split
  · rfl
  · cases e.amount? with
    | none => rfl
    | some n =>
      simp only [List.nil_append, Option.bind_some]
      split <;> rfl

/-- An event has no effect because of its first flaw. -/
theorem error?_effect (e : Event) : error? (effect e) = (flaws e).head? := by
  unfold effect
  split
  next hk hp =>
    rw [head?_flaws_of_match (by simp [hk, hp, EventKind.carries])]
    simp [hk, EventKind.needsActor, Event.amount?]
  next hk =>
    rw [head?_flaws_of_match (by simp [hk, EventKind.needsPayload])]
    simp [hk, EventKind.needsActor, Event.amount?]
  next hk hp =>
    rw [head?_flaws_of_match (by simp [hk, hp, EventKind.carries])]
    simp [hk, EventKind.needsActor, Event.amount?]
  next hk hp =>
    rw [head?_flaws_of_match (by simp [hk, hp, EventKind.carries])]
    simp [error?_actor, hk, EventKind.needsActor, Event.amount?]
  next hk hp =>
    rw [head?_flaws_of_match (by simp [hk, hp, EventKind.carries]), error?_actor_bind]
    cases e.actor <;> simp [error?_natural, hk, hp, EventKind.needsActor, Event.amount?]
  next hk hp =>
    rw [head?_flaws_of_match (by simp [hk, hp, EventKind.carries]), error?_actor_bind]
    cases e.actor <;> simp [error?_natural, hk, hp, EventKind.needsActor, Event.amount?]
  next hk =>
    rw [head?_flaws_of_match (by simp [hk, EventKind.needsPayload])]
    simp [error?_actor, hk, EventKind.needsActor, Event.amount?]
  next hk hp =>
    rw [head?_flaws_of_match (by simp [hk, hp, EventKind.carries])]
    simp [hk, EventKind.needsActor, Event.amount?]
  -- six kinds with a payload of another variant
  iterate 6
    next hk hp =>
      rw [head?_flaws_of_mismatch (by rw [hk]; rfl)]
      · rfl
      · cases hq : e.payload <;> simp_all [EventKind.carries]
  -- the kinds without statistics
  next =>
    rw [head?_flaws_of_match]
    · cases hk : e.kind <;> simp_all [EventKind.needsActor, Event.amount?]
    · cases hk : e.kind <;> simp_all [EventKind.needsPayload]

theorem cause?_apply (m : Match) (e : Event) :
    (m.apply e).2.cause? = (m.faults e).head? := by
  unfold apply faults
  split
  next => rfl
  next =>
    rw [List.nil_append, ← error?_effect]
    cases effect e with
    | error cause => rfl
    | ok eff =>
      rcases hperform : m.perform eff with ⟨m', result⟩
      cases result <;> simp only [hperform] <;> rfl

theorem apply_of_faults {m : Match} {e : Event} (h : m.faults e ≠ []) :
    ∃ cause, m.apply e = (m, .rejected cause) := by
  obtain ⟨cause, hcause⟩ := Option.ne_none_iff_exists'.1 (mt List.head?_eq_none_iff.1 h)
  rw [← cause?_apply, Verdict.cause?_eq_some_iff] at hcause
  have hsame : (m.apply e).1 = m := apply_of_rejected (Prod.ext rfl hcause)
  exact ⟨cause, Prod.ext hsame hcause⟩

/-- The book after a rejected event: the match is as it was, and only a terminal event seals it. -/
theorem handle_of_faults {b : Book} {m : Match} {e : Event}
    (hlive : b.live.get? e.origin.id = some m) (h : m.faults e ≠ []) (fresh : MatchId)
    (now : Instant) :
    ∃ b', b.handle fresh now e =
        .ok (if e.kind.isTerminal then .sealed (m.finish now) else .applied, b') ∧
      ∀ server, b'.live.get? server =
        if e.kind.isTerminal = true ∧ server = e.origin.id then none else b.live.get? server := by
  obtain ⟨cause, happly⟩ := apply_of_faults h
  simp only [Book.handle, hlive, happly]
  cases e.kind.isTerminal with
  | true =>
    refine ⟨_, rfl, fun server => ?_⟩
    simp [Table.get?_erase, eq_comm]
  | false =>
    refine ⟨_, rfl, fun server => ?_⟩
    by_cases hs : e.origin.id = server
    · subst hs
      simp [Table.get?_insert, hlive]
    · simp [Table.get?_insert, hs]

/-- An event is rejected exactly for the first of its faults. A rejected event changes nothing about
the match, and the match stays live unless the kind of the event is terminal. -/
theorem rejected_iff_head?_faults (m : Match) (e : Event) :
    (∀ cause, (m.apply e).2 = .rejected cause ↔ (m.faults e).head? = some cause) ∧
    (m.faults e ≠ [] → (m.apply e).1 = m ∧
      ∀ (b : Book) (fresh : MatchId) (now : Instant), b.live.get? e.origin.id = some m →
        ∃ b', b.handle fresh now e =
            .ok (if e.kind.isTerminal then .sealed (m.finish now) else .applied, b') ∧
          ∀ server, b'.live.get? server =
            if e.kind.isTerminal = true ∧ server = e.origin.id then none
            else b.live.get? server) := by
  refine ⟨fun cause => ?_, fun hfaults => ⟨?_, fun b fresh now hlive => ?_⟩⟩
  · rw [← cause?_apply, Verdict.cause?_eq_some_iff]
  · obtain ⟨cause, happly⟩ := apply_of_faults hfaults
    rw [happly]
  · exact handle_of_faults hlive hfaults fresh now

def onTwofort : Match := start ⟨0⟩ ⟨1, "s"⟩ "ctf_2fort" ⟨0⟩

/-- A kill without an attacker, with the payload of a map load. -/
def strayKill : Event := ⟨.kill, ⟨1, "s"⟩, none, ⟨0, 0⟩, .mapLoad "ctf_well", .empty⟩

theorem rejected_iff_head?_faults_strayKill :
    onTwofort.faults strayKill = [.payloadMismatch .kill, .missingActor .kill] ∧
    (onTwofort.apply strayKill).2 = .rejected (.payloadMismatch .kill) ∧
    (onTwofort.apply strayKill).1 = onTwofort ∧
    ∃ b', (Book.mk (Table.empty.insert 1 onTwofort)).handle ⟨1⟩ ⟨0⟩ strayKill =
        .ok (.applied, b') ∧
      ∀ server, b'.live.get? server = (Table.empty.insert 1 onTwofort).get? server := by
  have hfaults : onTwofort.faults strayKill = [.payloadMismatch .kill, .missingActor .kill] := by
    decide
  obtain ⟨hverdict, hrest⟩ := rejected_iff_head?_faults onTwofort strayKill
  obtain ⟨hsame, hbook⟩ := hrest (by rw [hfaults]; nofun)
  obtain ⟨b', hhandle, hlive⟩ := hbook ⟨Table.empty.insert 1 onTwofort⟩ ⟨1⟩ ⟨0⟩ rfl
  exact ⟨hfaults, (hverdict _).2 (by rw [hfaults]; rfl), hsame, b', hhandle, hlive⟩

end Match
end Moderation
