import Mathlib.Data.List.Forall2
import Moderation.History
import Moderation.Store.Call
import Moderation.Proofs.Ban.Course
/-!
What a writer of histories leaves in the store. The tables grow by the records of the events whose
writing succeeded, in their order. How the writing of an event ends depends on the event and on the
store's behaviour meanwhile, and never on what came before.
-/
namespace Moderation.History
open Time

structure IsChat (e : Event) (r : ChatRecord) : Prop where
  kind : e.kind = .say ∨ e.kind = .sayTeam
  actor : ∃ p, e.actor = some p ∧ r.steamId = p.steamId ∧ r.name = p.name
  payload : e.payload = .say r.message
  message : r.message ≠ ""
  server : r.serverId = e.origin.id
  teamOnly : r.teamOnly = true ↔ e.kind = .sayTeam
  time : r.createdAt = e.occurredAt

structure IsConnection (e : Event) (r : ConnectionRecord) : Prop where
  kind : e.kind = .connected
  actor : ∃ p, e.actor = some p ∧ r.steamId = p.steamId ∧ r.name = p.name ∧
    ((∀ a, e.payload ≠ .connected (some a)) → r.address = p.address)
  address : ∀ a, e.payload = .connected (some a) → r.address = some a
  server : r.serverId = e.origin.id
  time : r.createdAt = e.occurredAt

/-- There is something to record: a text and who said it, or who connected. -/
def HasRecord (e : Event) : Prop :=
  ((e.kind = .say ∨ e.kind = .sayTeam) ∧ (∃ p, e.actor = some p) ∧
    ∃ m, e.payload = .say m ∧ m ≠ "") ∨
  e.kind = .connected ∧ ∃ p, e.actor = some p

def Refuses (f : Fault) (limit : Span) (cause : StoreError) : Prop :=
  limit < f.delay ∧ cause = .timeout limit ∨
  f.delay ≤ limit ∧ f.failing = true ∧ cause = Fault.unavailable

theorem not_refuses {f : Fault} {limit : Span} (h : Ban.Answers f limit) (cause : StoreError) :
    ¬ Refuses f limit cause := by
  rintro (⟨hlate, -⟩ | ⟨-, hfailing, -⟩)
  · exact Span.not_lt.2 h.1 hlate
  · rw [h.2] at hfailing
    cases hfailing

theorem Refuses.unique {f : Fault} {limit : Span} {a b : StoreError} (ha : Refuses f limit a)
    (hb : Refuses f limit b) : a = b := by
  obtain ⟨hlate, rfl⟩ | ⟨htime, -, rfl⟩ := ha
  · obtain ⟨-, rfl⟩ | ⟨htime, -⟩ := hb
    · rfl
    · exact absurd hlate (Span.not_lt.2 htime)
  · obtain ⟨hlate, -⟩ | ⟨-, -, rfl⟩ := hb
    · exact absurd hlate (Span.not_lt.2 htime)
    · rfl

theorem call_cases {α : Type} (f : Fault) (limit : Span) (run : Except StoreError α) :
    Ban.Answers f limit ∧ f.call limit run = run ∨
    ∃ cause, Refuses f limit cause ∧ f.call limit run = .error cause := by
  by_cases hlate : limit < f.delay
  · exact .inr ⟨_, .inl ⟨hlate, rfl⟩, by rw [Fault.call, if_pos hlate]⟩
  · have htime := Span.not_lt.1 hlate
    cases hfailing : f.failing with
    | true => exact .inr ⟨_, .inr ⟨htime, hfailing, rfl⟩, by simp [Fault.call, hlate, hfailing]⟩
    | false => exact .inl ⟨⟨htime, hfailing⟩, by simp [Fault.call, hlate, hfailing]⟩

section Records
variable {e : Event}

theorem IsChat.hasRecord {r : ChatRecord} (h : IsChat e r) : HasRecord e := by
  obtain ⟨p, hp, -⟩ := h.actor
  exact .inl ⟨h.kind, ⟨p, hp⟩, r.message, h.payload, h.message⟩

theorem IsConnection.hasRecord {r : ConnectionRecord} (h : IsConnection e r) : HasRecord e := by
  obtain ⟨p, hp, -⟩ := h.actor
  exact .inr ⟨h.kind, p, hp⟩

theorem isChat_of_chatRecord? {r : ChatRecord} (h : chatRecord? e = some r) : IsChat e r := by
  unfold chatRecord? at h
  cases hk : e.kind.isChat with
  | false => simp [hk] at h
  | true =>
    cases ha : e.actor with
    | none => simp [hk, ha] at h
    | some p =>
      have hkind : e.kind = .say ∨ e.kind = .sayTeam := by
        cases hkind : e.kind <;> simp [hkind, EventKind.isChat] at hk ⊢
      cases hm : e.message? with
      | none => simp [hk, ha, hm] at h
      | some m =>
        simp only [hk, ha, hm] at h
        cases h
        unfold Event.message? at hm
        split at hm
        next m' hpayload =>
          split at hm
          · cases hm
          next hne =>
            cases hm
            exact ⟨hkind, ⟨p, ha, rfl, rfl⟩, hpayload, hne, rfl, by simp, rfl⟩
        next => cases hm

theorem isConnection_of_connectionRecord? {r : ConnectionRecord}
    (h : connectionRecord? e = some r) : IsConnection e r := by
  unfold connectionRecord? at h
  by_cases hk : e.kind = .connected
  · cases ha : e.actor with
    | none => simp [hk, ha] at h
    | some p =>
      simp only [hk, ha] at h
      cases h
      refine ⟨hk, ⟨p, ha, rfl, rfl, fun hnone => ?_⟩, fun a hsome => by simp [hsome], rfl, rfl⟩
      cases hpayload : e.payload with
      | connected address =>
        cases address with
        | none => rfl
        | some a => exact absurd hpayload (hnone a)
      | _ => rfl
  · simp [hk] at h

/-- What there is to write is the record of the event, if it has one. -/
theorem write?_cases (e : Event) :
    (¬ HasRecord e ∧ write? e = none) ∨
    (∃ r, IsChat e r ∧ write? e = some (.appendChat r)) ∨
    ∃ r, IsConnection e r ∧ write? e = some (.appendConnection r) := by
  cases hc : chatRecord? e with
  | some r => exact .inr (.inl ⟨r, isChat_of_chatRecord? hc, by simp [write?, hc]⟩)
  | none =>
    cases hn : connectionRecord? e with
    | some r =>
      exact .inr (.inr ⟨r, isConnection_of_connectionRecord? hn, by simp [write?, hc, hn]⟩)
    | none =>
      refine .inl ⟨?_, by simp [write?, hc, hn]⟩
      rintro (⟨hkind, ⟨p, hp⟩, m, hpayload, hm⟩ | ⟨hkind, p, hp⟩)
      · have hchat : e.kind.isChat = true := by
          rcases hkind with hkind | hkind <;> rw [hkind] <;> rfl
        simp [chatRecord?, hchat, hp, Event.message?, hpayload, hm] at hc
      · simp [connectionRecord?, hkind, hp] at hn

end Records

inductive Ends (f : Fault) (limit : Span) (s : Store) (e : Event) :
    Except StoreError Bool → Store → Prop
  | nothing (hnone : ¬ HasRecord e) : Ends f limit s e (.ok false) s
  | refused (hsome : HasRecord e) {cause : StoreError} (hrefuses : Refuses f limit cause) :
    Ends f limit s e (.error cause) s
  | chat (hanswers : Ban.Answers f limit) {r : ChatRecord} (hr : IsChat e r) :
    Ends f limit s e (.ok true) { s with chat := s.chat ++ [r] }
  | connection (hanswers : Ban.Answers f limit) {r : ConnectionRecord} (hr : IsConnection e r) :
    Ends f limit s e (.ok true) { s with connections := s.connections ++ [r] }

theorem ends (f : Fault) (limit : Span) (s : Store) (e : Event) :
    Ends f limit s e (record f limit s e).1 (record f limit s e).2 := by
  obtain ⟨hnone, hw⟩ | ⟨r, hr, hw⟩ | ⟨r, hr, hw⟩ := write?_cases e
  · simp only [record, hw]
    exact .nothing hnone
  · obtain ⟨hanswers, hcall⟩ | ⟨cause, hrefuses, hcall⟩ :=
      call_cases f limit (s.write (.appendChat r))
    · simp only [record, hw, Fault.write, hcall]
      exact .chat hanswers hr
    · simp only [record, hw, Fault.write, hcall]
      exact .refused hr.hasRecord hrefuses
  · obtain ⟨hanswers, hcall⟩ | ⟨cause, hrefuses, hcall⟩ :=
      call_cases f limit (s.write (.appendConnection r))
    · simp only [record, hw, Fault.write, hcall]
      exact .connection hanswers hr
    · simp only [record, hw, Fault.write, hcall]
      exact .refused hr.hasRecord hrefuses

/-- A call under way goes by the delay at its beginning and by the failing at its end. -/
theorem write_begin {e : Event} {w : Store.Write} (hw : write? e = some w) (s : Store)
    (begins ends : Fault) (limit clock : Span) :
    (⟨s, ends, limit⟩ : Archive).write (begins.begin limit clock) w =
      ((record ⟨begins.delay, ends.failing⟩ limit s e).1.map fun _ => (),
        ⟨(record ⟨begins.delay, ends.failing⟩ limit s e).2, ends, limit⟩) := by
  have hanswer : ends.answer limit (begins.begin limit clock) (s.write w) =
      (⟨begins.delay, ends.failing⟩ : Fault).call limit (s.write w) := by
    rw [← Fault.answer_begin _ limit clock]
    rfl
  simp only [record, hw, Fault.write, Archive.write, hanswer]
  cases (⟨begins.delay, ends.failing⟩ : Fault).call limit (s.write w) <;> rfl

structure Visit where
  event : Event
  fault : Fault

def after (limit : Span) (s : Store) (vs : List Visit) : Store :=
  vs.foldl (fun s v => (record v.fault limit s v.event).2) s

def answers (limit : Span) (s : Store) : List Visit → List (Except StoreError Bool)
  | [] => []
  | v :: vs =>
    let (answer, s') := record v.fault limit s v.event
    answer :: answers limit s' vs

def succeeded (p : EventKind → Bool) (vs : List Visit) (as : List (Except StoreError Bool)) :
    List Event :=
  ((vs.zip as).filter fun (v, a) => p v.event.kind && a = .ok true).map (·.1.event)

section Run
variable {limit : Span} {s : Store}

theorem after_append (limit : Span) (s : Store) (us vs : List Visit) :
    after limit s (us ++ vs) = after limit (after limit s us) vs := List.foldl_append

theorem answers_append (limit : Span) (s : Store) (us vs : List Visit) :
    answers limit s (us ++ vs) = answers limit s us ++ answers limit (after limit s us) vs := by
  induction us generalizing s with
  | nil => rfl
  | cons u us ih => exact congrArg _ (ih _)

theorem length_answers (limit : Span) (s : Store) (vs : List Visit) :
    (answers limit s vs).length = vs.length := by
  induction vs generalizing s with
  | nil => rfl
  | cons v vs ih => exact congrArg (· + 1) (ih _)

/-- What was written and what was answered make up the difference between two stores. -/
structure Grows (vs : List Visit) (as : List (Except StoreError Bool)) (s s' : Store) : Prop where
  chat : ∃ rs, s'.chat = s.chat ++ rs ∧
    List.Forall₂ IsChat (succeeded (fun k => k = .say || k = .sayTeam) vs as) rs
  connections : ∃ rs, s'.connections = s.connections ++ rs ∧
    List.Forall₂ IsConnection (succeeded (· = .connected) vs as) rs
  others : s' = { s with chat := s'.chat, connections := s'.connections }

theorem succeeded_cons (p : EventKind → Bool) (v : Visit) (vs : List Visit)
    (a : Except StoreError Bool) (as : List (Except StoreError Bool)) :
    succeeded p (v :: vs) (a :: as) =
      if p v.event.kind = true ∧ a = .ok true then v.event :: succeeded p vs as
      else succeeded p vs as := by
  by_cases h : p v.event.kind = true ∧ a = .ok true
  · simp [succeeded, h]
  · rw [if_neg h]
    simp only [succeeded, List.zip_cons_cons, List.filter_cons]
    rw [if_neg (by simpa using h)]

theorem Grows.skip {v : Visit} {a : Except StoreError Bool} (ha : a ≠ .ok true) {vs : List Visit}
    {as : List (Except StoreError Bool)} {s' : Store} (h : Grows vs as s s') :
    Grows (v :: vs) (a :: as) s s' := by
  have hskip : ∀ p, succeeded p (v :: vs) (a :: as) = succeeded p vs as := fun p => by
    simp [succeeded_cons, ha]
  exact ⟨hskip _ ▸ h.chat, hskip _ ▸ h.connections, h.others⟩

theorem grows (limit : Span) (s : Store) (vs : List Visit) :
    Grows vs (answers limit s vs) s (after limit s vs) := by
  induction vs generalizing s with
  | nil => exact ⟨⟨[], by simp [after], .nil⟩, ⟨[], by simp [after], .nil⟩, rfl⟩
  | cons v vs ih =>
    have hrest := ih (record v.fault limit s v.event).2
    change Grows (v :: vs) ((record v.fault limit s v.event).1 ::
      answers limit (record v.fault limit s v.event).2 vs) s
      (after limit (record v.fault limit s v.event).2 vs)
    generalize after limit (record v.fault limit s v.event).2 vs = s' at hrest ⊢
    generalize answers limit (record v.fault limit s v.event).2 vs = as at hrest ⊢
    have hends := ends v.fault limit s v.event
    generalize (record v.fault limit s v.event).1 = a at hends ⊢
    generalize (record v.fault limit s v.event).2 = next at hends hrest
    cases hends with
    | nothing hnone => exact hrest.skip (by simp)
    | refused hsome hrefuses => exact hrest.skip (by simp)
    | @chat hanswers r hr =>
      obtain ⟨rs, hchat, hrs⟩ := hrest.chat
      obtain ⟨ks, hconnections, hks⟩ := hrest.connections
      refine ⟨⟨r :: rs, by simp [hchat], ?_⟩, ⟨ks, hconnections, ?_⟩, hrest.others⟩
      · simpa [succeeded_cons, hr.kind] using ⟨hr, hrs⟩
      · have hother : v.event.kind ≠ .connected := by
          rcases hr.kind with hkind | hkind <;> simp [hkind]
        simpa [succeeded_cons, hother] using hks
    | @connection hanswers r hr =>
      obtain ⟨rs, hchat, hrs⟩ := hrest.chat
      obtain ⟨ks, hconnections, hks⟩ := hrest.connections
      refine ⟨⟨rs, hchat, ?_⟩, ⟨r :: ks, by simp [hconnections], ?_⟩, hrest.others⟩
      · simpa [succeeded_cons, hr.kind] using hrs
      · simpa [succeeded_cons, hr.kind] using ⟨hr, hks⟩

end Run

/-- Every course of a writer. The chat and the connections grow by the records of the events whose
writing succeeded, and nothing else changes. Each event is written as if it were the first: it
succeeds if there is something to record and the store answers; otherwise nothing changes. A call
that takes time ends as the delay at its beginning and the failing at its end say. -/
theorem tables_of_answers (limit : Span) (s : Store) (vs : List Visit) :
    Grows vs (answers limit s vs) s (after limit s vs) ∧
    ∀ before v since, vs = before ++ v :: since →
      let here := after limit s before
      let next := after limit s (before ++ [v])
      ∃ a, (answers limit s vs)[before.length]? = some a ∧
        (a ≠ .ok true → next = here) ∧
        (a = .ok true ↔ HasRecord v.event ∧ Ban.Answers v.fault limit) ∧
        (a = .ok false ↔ ¬ HasRecord v.event) ∧
        (∀ cause, a = .error cause ↔ HasRecord v.event ∧ Refuses v.fault limit cause) ∧
        ∀ (begins ends : Fault) (clock : Span) (w : Store.Write), write? v.event = some w →
          v.fault = ⟨begins.delay, ends.failing⟩ →
          (⟨here, ends, limit⟩ : Archive).write (begins.begin limit clock) w =
            (a.map fun _ => (), ⟨next, ends, limit⟩) := by
  refine ⟨grows limit s vs, ?_⟩
  rintro before v since rfl
  intro here next
  have hnext : next = (record v.fault limit here v.event).2 := after_append limit s before [v]
  refine ⟨(record v.fault limit here v.event).1, ?_, ?_⟩
  · rw [answers_append, List.getElem?_append_right (Nat.le_of_eq (length_answers ..)),
      length_answers, Nat.sub_self]
    rfl
  rw [hnext, ← and_assoc, ← and_assoc, ← and_assoc]
  refine ⟨?_, fun begins ends clock w hw hfault =>
    hfault ▸ write_begin hw here begins ends limit clock⟩
  have hends := ends v.fault limit here v.event
  generalize (record v.fault limit here v.event).1 = a at hends ⊢
  generalize (record v.fault limit here v.event).2 = left at hends ⊢
  cases hends with
  | nothing hnone => simp [hnone]
  | refused hsome hrefuses =>
    have hnot : ¬ Ban.Answers v.fault limit := fun h => not_refuses h _ hrefuses
    simp only [ne_eq, reduceCtorEq, not_false_eq_true, hsome, hnot, implies_true, true_and,
      and_false, not_true_eq_false, Except.error.injEq]
    exact fun cause => ⟨fun h => h ▸ hrefuses, hrefuses.unique⟩
  | chat hanswers hr => simp [hr.hasRecord, hanswers, not_refuses hanswers]
  | connection hanswers hr => simp [hr.hasRecord, hanswers, not_refuses hanswers]

/-- Two messages and two connections are written, and three events are not: one meets a store that
fails, one a store that is too slow, and one says nothing. -/
def troubled : List Visit :=
  let player : Player := ⟨⟨76561198017946808⟩, "A", .red, some (.v4 [10, 0, 0, 1])⟩
  let event (kind : EventKind) (payload : Payload) : Event :=
    ⟨kind, ⟨1, "s"⟩, some player, ⟨0, 0⟩, payload, .empty⟩
  [⟨event .say (.say "gg"), ⟨.ofSeconds 1, false⟩⟩, ⟨event .say (.say "lost"), ⟨.zero, true⟩⟩,
    ⟨event .connected (.connected none), ⟨.zero, false⟩⟩,
    ⟨event .sayTeam (.say "late"), ⟨.ofMillis 1001, false⟩⟩,
    ⟨event .sayTeam (.say ""), ⟨.ofMillis 1001, true⟩⟩,
    ⟨event .sayTeam (.say "wp"), ⟨.zero, false⟩⟩,
    ⟨event .connected (.connected (some (.v4 [10, 0, 0, 2]))), ⟨.zero, false⟩⟩]

theorem tables_of_answers_troubled :
    let as := answers (.ofSeconds 1) .empty troubled
    let s := after (.ofSeconds 1) .empty troubled
    Grows troubled as .empty s ∧ as[3]? = some (.error (.timeout (.ofSeconds 1))) ∧
      s.chat.map (·.message) = ["gg", "wp"] ∧
      s.connections.map (·.address) = [some (.v4 [10, 0, 0, 1]), some (.v4 [10, 0, 0, 2])] :=
  ⟨(tables_of_answers _ _ _).1, by decide, by decide, by decide⟩

end Moderation.History
