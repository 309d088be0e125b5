import Moderation.Pipeline.Step
import Moderation.Proofs.Ban.Course
import Moderation.Proofs.Bus.Delivery
import Moderation.Proofs.Worker.Chat
/-!
What the tasks of the pipeline do to chat that is on its way. Events wait for the chat writer, and
records for the store; together with the history they stay the same whatever task goes on, as long
as the store answers.
-/
namespace Moderation
open Time

namespace Subscriber

def WantsAll (s : Subscriber) : Prop := ∀ e ∈ s.queue.items, s.interest.wants e.kind = true

/-- What does not change when a subscriber takes an event. -/
def terms (s : Subscriber) : Bool × Nat × Nat := (s.queue.isOpen, s.queue.capacity, s.dropped)

theorem wantsAll_react {s : Subscriber} (h : s.WantsAll) (i : Nat) (op : Bus.Op) :
    (s.react i op).WantsAll := by
  cases op with
  | subscribe name interest capacity => exact h
  | publish e =>
    cases hw : s.interest.wants e.kind with
    | false => simpa only [react, offer_of_not_wants hw] using h
    | true =>
      by_cases hr : s.queue.HasRoom
      · obtain ⟨q, hitems, -, -, hoffer⟩ := offer_of_hasRoom hw hr
        intro f hf
        simp only [react, hoffer, hitems, List.mem_append, List.mem_singleton] at hf ⊢
        obtain hf | rfl := hf
        · exact h f hf
        · exact hw
      · simp only [react, offer_of_not_hasRoom hw hr]
        exact h
  | receive j =>
    by_cases hj : j = i
    · simp only [react, if_pos hj]
      cases ht : s.queue.take? with
      | none => exact h
      | some taken =>
        obtain ⟨hitems, -, -⟩ := Queue.items_take? ht
        intro f hf
        exact h f (by rw [hitems]; exact List.mem_cons_of_mem _ hf)
    · simpa only [react, if_neg hj] using h
  | leave j =>
    by_cases hj : j = i
    · simp only [react, hj, if_true]
      exact fun f hf => absurd hf List.not_mem_nil
    · simpa only [react, if_neg hj] using h

end Subscriber

namespace Bus
variable {b : Bus} {op : Op}

theorem getElem?_step (hop : (b.step op).1.isSubscribed = false) (i : Nat) :
    (b.step op).2.subscribers[i]? = (b.subscribers[i]?).map (·.react i op) := by
  cases hs : b.subscribers[i]? with
  | some s => exact (step_at hs op).1
  | none =>
    have hlen := b.length_step op
    rw [List.getElem?_eq_none_iff] at hs
    simp only [hop, Bool.false_eq_true, if_false, Nat.add_zero] at hlen
    simpa [hlen] using hs

/-- Who receives an event takes it from its queue. -/
theorem receive_eq_some {b' : Bus} {i : Nat} {e : Event} (h : b.receive i = (some e, b')) :
    ∃ s q, b.subscribers[i]? = some s ∧ s.queue.take? = some (e, q) ∧
      b' = (b.step (.receive i)).2 := by
  have hb : b' = (b.step (.receive i)).2 := (congrArg Prod.snd h).symm
  unfold receive at h
  split at h
  next f q hq =>
    obtain ⟨s, hs, htake⟩ := Option.bind_eq_some_iff.1 hq
    cases h
    exact ⟨s, q, hs, htake, hb⟩
  next => cases h

theorem items_of_receive_eq_none {i : Nat} (h : (b.receive i).1 = none) {s : Subscriber}
    (hs : b.subscribers[i]? = some s) : s.queue.items = [] := by
  unfold receive at h
  rw [hs, Option.bind_some] at h
  split at h
  next => cases h
  next htake => exact Queue.items_of_take?_eq_none htake

structure Serves (b : Bus) (interests : List Interest) : Prop where
  interests : b.subscribers.map (·.interest) = interests
  wanted : ∀ s ∈ b.subscribers, s.WantsAll

theorem Serves.step {interests : List Interest} (h : b.Serves interests) (op : Op)
    (hop : (b.step op).1.isSubscribed = false) : (b.step op).2.Serves interests := by
  refine ⟨?_, fun s' hs' => ?_⟩
  · rw [← h.interests]
    refine List.ext_getElem? fun i => ?_
    rw [List.getElem?_map, List.getElem?_map, getElem?_step hop, Option.map_map]
    exact Option.map_congr fun s _ => (s.reacts i op).interest
  · obtain ⟨i, hi⟩ := List.mem_iff_getElem?.1 hs'
    rw [getElem?_step hop, Option.map_eq_some_iff] at hi
    obtain ⟨s, hs, rfl⟩ := hi
    exact Subscriber.wantsAll_react (h.wanted s (List.mem_of_getElem? hs)) i op

end Bus

namespace Pipeline
open Ingest Schedule Worker

namespace State

def desk? (s : State) : Option Subscriber := s.intake.bus.subscribers[s.place .chatWriter]?

def queued (s : State) : List Event := (s.desk?.map (·.queue.items)).getD []

def penned (s : State) : List ChatRecord :=
  ((s.calls.find? (·.1 = .chatWriter)).bind (·.2.2.chat?)).toList

/-- All chat that is written or will be. -/
def told (s : State) : List ChatRecord :=
  s.archive.store.chat ++ s.penned ++ s.queued.filterMap History.chatRecord?

/-- A pipeline with a chat writer and a store that answers, in which nobody but the chat writer has
chat to write. -/
structure Orderly (s : State) : Prop where
  answers : Ban.Answers s.archive.fault s.archive.limit
  manned : .chatWriter ∈ s.consumers
  served : s.intake.bus.Serves (s.consumers.map Consumer.interest)
  calls : ∀ x ∈ s.calls, x.2.1.isInTime = true ∧ (x.1 = .chatWriter ∨ x.2.2.chat? = none)
  errands : ∀ e ∈ s.pool.jobs, e.IsQuiet

structure Steady (s s' : State) : Prop where
  orderly : s'.Orderly
  consumers : s'.consumers = s.consumers
  router : s'.intake.router = s.intake.router
  limit : s'.archive.limit = s.archive.limit
  terms : s'.desk?.map Subscriber.terms = s.desk?.map Subscriber.terms
  chat : s.archive.store.chat <+: s'.archive.store.chat

/-- Nothing that is told is lost, doubled, or put elsewhere. -/
structure Conserves (s s' : State) : Prop extends Steady s s' where
  told : s'.told = s.told

section Calls
variable (calls : List (Consumer × Call × Store.Write)) {c c' : Consumer}

theorem find?_filter_self : (calls.filter (·.1 ≠ c)).find? (·.1 = c) = none :=
  List.find?_eq_none.2 fun x hx => by simpa using (List.mem_filter.1 hx).2

theorem find?_filter_ne (h : c ≠ c') :
    (calls.filter (·.1 ≠ c')).find? (·.1 = c) = calls.find? (·.1 = c) := by
  rw [List.find?_filter]
  congr 1
  funext x
  grind

end Calls

variable {s s' s'' : State}

theorem Steady.trans (h : s.Steady s') (h' : s'.Steady s'') : s.Steady s'' where
  orderly := h'.orderly
  consumers := h'.consumers.trans h.consumers
  router := h'.router.trans h.router
  limit := h'.limit.trans h.limit
  terms := h'.terms.trans h.terms
  chat := h.chat.trans h'.chat

theorem Conserves.trans (h : s.Conserves s') (h' : s'.Conserves s'') : s.Conserves s'' :=
  ⟨h.toSteady.trans h'.toSteady, h'.told.trans h.told⟩

theorem desk?_step (s : State) (op : Bus.Op) (hop : (s.intake.bus.step op).1.isSubscribed = false) :
    desk? { s with intake.bus := (s.intake.bus.step op).2 } =
      s.desk?.map (·.react (s.place .chatWriter) op) :=
  Bus.getElem?_step hop _

theorem desk?_of_same (hconsumers : s'.consumers = s.consumers) (hintake : s'.intake = s.intake) :
    s'.desk? = s.desk? := by
  rw [desk?, desk?, place, place, hintake, hconsumers]

theorem queued_of_same (hconsumers : s'.consumers = s.consumers)
    (hintake : s'.intake = s.intake) : s'.queued = s.queued := by
  rw [queued, queued, desk?_of_same hconsumers hintake]

namespace Orderly

/-- Changes to the engine, the matches or the jobs are no changes to chat. -/
theorem conserves_of_same (h : s.Orderly) (hconsumers : s'.consumers = s.consumers)
    (hintake : s'.intake = s.intake) (harchive : s'.archive = s.archive)
    (hcalls : s'.calls = s.calls) (herrands : ∀ e ∈ s'.pool.jobs, e.IsQuiet) : s.Conserves s' := by
  have hdesk := desk?_of_same hconsumers hintake
  refine ⟨⟨⟨?_, ?_, ?_, ?_, herrands⟩, hconsumers, ?_, ?_, ?_, ?_⟩, ?_⟩
  · exact harchive ▸ h.answers
  · exact hconsumers ▸ h.manned
  · rw [hintake, hconsumers]
    exact h.served
  · exact hcalls ▸ h.calls
  · rw [hintake]
  · rw [harchive]
  · rw [hdesk]
  · exact harchive ▸ List.prefix_refl _
  · rw [told, told, penned, penned, queued_of_same hconsumers hintake, hcalls, harchive]

theorem conserves_refl (h : s.Orderly) : s.Conserves s :=
  h.conserves_of_same rfl rfl rfl rfl h.errands

theorem exists_desk (h : s.Orderly) :
    ∃ d, s.desk? = some d ∧ d.interest = Consumer.interest .chatWriter ∧ d.WantsAll := by
  have hget : (s.consumers.map Consumer.interest)[s.place .chatWriter]? =
      some (Consumer.interest .chatWriter) := by
    rw [List.getElem?_map, place, List.getElem?_idxOf h.manned]
    rfl
  rw [← h.served.interests, List.getElem?_map, Option.map_eq_some_iff] at hget
  obtain ⟨d, hd, hinterest⟩ := hget
  exact ⟨d, hd, hinterest, h.served.wanted d (List.mem_of_getElem? hd)⟩

theorem place_ne (h : s.Orderly) {c : Consumer} (hc : c ≠ .chatWriter) :
    s.place c ≠ s.place .chatWriter :=
  fun heq => hc ((List.idxOf_inj h.manned).1 heq.symm).symm

/-- What happens to the other subscribers is nothing to the chat writer. -/
theorem conserves_bus (h : s.Orderly) (op : Bus.Op)
    (hop : (s.intake.bus.step op).1.isSubscribed = false)
    (hdesk : ∀ d, s.desk? = some d → d.react (s.place .chatWriter) op = d) :
    s.Conserves { s with intake.bus := (s.intake.bus.step op).2 } := by
  have hsame : desk? { s with intake.bus := (s.intake.bus.step op).2 } = s.desk? := by
    obtain ⟨d, hd, -⟩ := h.exists_desk
    rw [desk?_step s op hop, hd, Option.map_some, hdesk d hd]
  refine ⟨⟨⟨h.answers, h.manned, h.served.step op hop, h.calls, h.errands⟩, rfl, rfl, rfl, ?_, ?_⟩,
    ?_⟩
  · rw [hsame]
  · exact List.prefix_refl _
  · rw [told, told, queued, queued, hsame]
    rfl

theorem conserves_leave (h : s.Orderly) {c : Consumer} (hc : c ≠ .chatWriter) :
    s.Conserves { s with intake.bus := s.intake.bus.leave (s.place c) } :=
  h.conserves_bus (.leave (s.place c)) rfl fun _ _ => if_neg (h.place_ne hc)

theorem conserves_carry (h : s.Orderly) {clock : Span} {hand : Hand} {step : Step Task State}
    (hstep : s.carry? clock hand = some step) : s.Conserves step.state := by
  obtain ⟨inner, hinner, rfl⟩ := Option.map_eq_some_iff.1 hstep
  obtain ⟨herrands, hsame⟩ := Pool.keeps_step Errand.keeps_labour Archive.SameChat.refl h.errands
    hinner
  refine ⟨⟨⟨?_, h.manned, h.served, h.calls, herrands⟩, rfl, rfl, hsame.limit, rfl, ?_⟩, ?_⟩
  · simpa only [hsame.fault, hsame.limit] using h.answers
  · simp only [hsame.chat, List.prefix_refl]
  · rw [told, hsame.chat]
    rfl

theorem conserves_placeAll (h : s.Orderly) (jobs : List Job) :
    s.Conserves (s.placeAll jobs).state := by
  have herrands : ∀ pool : Pool Errand, (∀ e ∈ pool.jobs, e.IsQuiet) →
      ∀ e ∈ (jobs.foldl (fun p j => p.put j.isVital (.ofJob j)) pool).jobs, e.IsQuiet := by
    induction jobs with
    | nil => exact fun _ hpool => hpool
    | cons j jobs ih =>
      refine fun pool hpool => ih _ fun e he => ?_
      obtain rfl | he := Pool.mem_jobs_put he
      · exact Errand.isQuiet_ofJob j
      · exact hpool e he
  exact h.conserves_of_same rfl rfl rfl rfl (herrands s.pool h.errands)

theorem conserves_warn (h : s.Orderly) (now : Instant) (e : Event) :
    s.Conserves (s.warn now e).state := by
  have hengine : s.Conserves { s with engine := (s.engine.handle e now now).2 } :=
    h.conserves_of_same rfl rfl rfl rfl h.errands
  exact hengine.trans (hengine.orderly.conserves_placeAll _)

theorem conserves_summarize (h : s.Orderly) (now : Instant) (e : Event) :
    s.Conserves (s.summarize now e).state := by
  unfold summarize
  split
  next => exact h.conserves_leave (c := .summarizer) nofun
  next t book _ =>
    have hbook : s.Conserves { s with book } := h.conserves_of_same rfl rfl rfl rfl h.errands
    cases t with
    | created n => exact h.conserves_of_same rfl rfl rfl rfl h.errands
    | «sealed» m => exact hbook.trans (hbook.orderly.conserves_placeAll _)
    | _ => exact hbook

/-- A call to the store that is over adds what was penned. -/
theorem steady_write (h : s.Orderly) {call : Call} (hcall : call.isInTime = true)
    (w : Store.Write) {calls : List (Consumer × Call × Store.Write)} (hcalls : calls ⊆ s.calls) :
    s.Steady { s.write call w with calls } ∧
      (s.write call w).archive.store.chat = s.archive.store.chat ++ w.chat?.toList := by
  obtain ⟨hfault, hlimit⟩ := s.archive.write_frame call w
  have hchat : (s.write call w).archive.store.chat = s.archive.store.chat ++ w.chat?.toList :=
    Archive.chat_write h.answers.2 hcall w
  refine ⟨⟨⟨?_, h.manned, h.served, fun x hx => h.calls x (hcalls hx), h.errands⟩, rfl, rfl, hlimit,
    rfl, ?_⟩, hchat⟩
  · simpa only [write, hfault, hlimit] using h.answers
  · simp only [hchat, List.prefix_append]

theorem conserves_finish (h : s.Orderly) {c c' : Consumer} {call : Call} {w : Store.Write}
    (hfind : s.calls.find? (·.1 = c) = some (c', call, w)) :
    s.Conserves { s.write call w with calls := s.calls.filter (·.1 ≠ c) } := by
  obtain rfl : c' = c := by simpa using List.find?_some hfind
  obtain ⟨hcall, hchat⟩ := h.calls _ (List.mem_of_find?_eq_some hfind)
  have hrest : s.calls.filter (·.1 ≠ c') ⊆ s.calls := List.filter_subset_self _
  obtain ⟨hsteady, hwrite⟩ := h.steady_write hcall w hrest
  refine ⟨hsteady, ?_⟩
  have hpenned : s.penned = w.chat?.toList ++
      penned { s.write call w with calls := s.calls.filter (·.1 ≠ c') } := by
    by_cases hc : c' = .chatWriter
    · subst hc
      rw [penned, penned, hfind, find?_filter_self]
      exact (List.append_nil _).symm
    · rw [penned, penned, find?_filter_ne _ (Ne.symm hc), hchat.resolve_left hc]
      rfl
  rw [told, told, hpenned]
  simp only [hwrite, List.append_assoc]
  rfl

/-- What a writer makes of an event comes behind all that is written or penned. -/
theorem steady_record (h : s.Orderly) (clock : Span) {c : Consumer} {e : Event}
    (hc : c = .chatWriter → s.calls.find? (·.1 = .chatWriter) = none)
    (he : c = .chatWriter ∨ History.chatRecord? e = none) :
    s.Steady (s.record clock c e).state ∧
      (s.record clock c e).state.intake = s.intake ∧
      (s.record clock c e).state.archive.store.chat ++ (s.record clock c e).state.penned =
        s.archive.store.chat ++ s.penned ++ (History.chatRecord? e).toList := by
  have hwrite := History.chat?_write? e
  unfold record
  cases hw : History.write? e with
  | none =>
    rw [hw] at hwrite
    simp [← hwrite, h.conserves_refl.toSteady]
  | some w =>
    rw [hw, Option.bind_some] at hwrite
    have hintime : (s.archive.begin clock).isInTime = true := by
      simpa [Archive.begin, Fault.begin] using h.answers.1
    rw [← hwrite]
    simp only
    split
    next =>
      obtain ⟨hsteady, hchat⟩ := h.steady_write hintime w (List.Subset.refl s.calls)
      refine ⟨hsteady, rfl, ?_⟩
      have hempty : s.penned = [] ∨ w.chat? = none := by
        refine he.imp (fun hwriter => ?_) hwrite.trans
        rw [penned, hc hwriter]
        rfl
      rw [hchat, show (s.write (s.archive.begin clock) w).penned = s.penned from rfl]
      obtain hempty | hempty := hempty <;> simp [hempty]
    next =>
      have hcalls : ∀ x ∈ s.calls ++ [(c, s.archive.begin clock, w)],
          x.2.1.isInTime = true ∧ (x.1 = .chatWriter ∨ x.2.2.chat? = none) := by
        intro x hx
        obtain hx | hx := List.mem_append.1 hx
        · exact h.calls x hx
        · obtain rfl := List.mem_singleton.1 hx
          exact ⟨hintime, he.imp_right hwrite.trans⟩
      refine ⟨⟨⟨h.answers, h.manned, h.served, hcalls, h.errands⟩, rfl, rfl, rfl, rfl,
        List.prefix_refl _⟩, rfl, ?_⟩
      rw [List.append_assoc]
      congr 1
      simp only [penned, List.find?_append]
      by_cases hwriter : c = .chatWriter
      · simp [hc hwriter, hwriter]
      · simp [hwriter, hwrite, he.resolve_left hwriter]

theorem conserves_record (h : s.Orderly) (clock : Span) {c : Consumer} {e : Event}
    (hc : c ≠ .chatWriter) (he : History.chatRecord? e = none) :
    s.Conserves (s.record clock c e).state := by
  obtain ⟨hsteady, hintake, hwritten⟩ := h.steady_record clock (fun hwriter => absurd hwriter hc)
    (.inr he)
  refine ⟨hsteady, ?_⟩
  rw [told, told, hwritten, he, queued_of_same hsteady.consumers hintake]
  simp

/-- The chat writer receives the first of the events that wait for it. -/
theorem steady_receive (h : s.Orderly) {e : Event} {b : Bus}
    (hreceive : s.intake.bus.receive (s.place .chatWriter) = (some e, b)) :
    s.Steady { s with intake.bus := b } ∧
      s.queued = e :: queued { s with intake.bus := b } := by
  obtain ⟨d, q, hd, htake, rfl⟩ := Bus.receive_eq_some hreceive
  obtain ⟨hitems, hcapacity, hopen⟩ := Queue.items_take? htake
  have hdesk : s.desk? = some d := hd
  have hreact : d.react (s.place .chatWriter) (.receive (s.place .chatWriter)) =
      { d with queue := q } := by
    simp [Subscriber.react, htake]
  have hnext : desk? { s with
      intake.bus := (s.intake.bus.step (.receive (s.place .chatWriter))).2 } =
        some { d with queue := q } := by
    rw [desk?_step s _ rfl, hdesk, Option.map_some, hreact]
  refine ⟨⟨⟨h.answers, h.manned, h.served.step _ rfl, h.calls, h.errands⟩, rfl, rfl, rfl, ?_,
    List.prefix_refl _⟩, ?_⟩
  · rw [hnext, hdesk]
    simp [Subscriber.terms, hcapacity, hopen]
  · rw [queued, queued, hnext, hdesk]
    exact hitems

/-- No event that the connection writer receives is chat. -/
theorem chatRecord?_eq_none (h : s.Orderly) {e : Event} {b : Bus}
    (hreceive : s.intake.bus.receive (s.place .connectionWriter) = (some e, b)) :
    History.chatRecord? e = none := by
  obtain ⟨x, q, hx, htake, -⟩ := Bus.receive_eq_some hreceive
  obtain ⟨hitems, -, -⟩ := Queue.items_take? htake
  have hinterest : x.interest = Consumer.interest .connectionWriter := by
    have hget := congrArg (·[s.place .connectionWriter]?) h.served.interests
    simp only [List.getElem?_map, hx, Option.map_some] at hget
    obtain ⟨c, hc, hsame⟩ := Option.map_eq_some_iff.1 hget.symm
    have hmem : .connectionWriter ∈ s.consumers :=
      List.idxOf_lt_length_iff.1 (List.getElem?_eq_some_iff.1 hc).1
    rw [place, List.getElem?_idxOf hmem] at hc
    cases hc
    exact hsame.symm
  have hwants := h.served.wanted x (List.mem_of_getElem? hx) e (by simp [hitems])
  have hkind : e.kind = .connected := by
    simpa [hinterest, Consumer.interest, Interest.wants] using hwants
  simp [History.chatRecord?, hkind, EventKind.isChat]

/-- A consumer that goes on conserves what is told. -/
theorem conserves_consume (h : s.Orderly) {now : Instant} {clock : Span} {c : Consumer}
    {step : Step Task State} (hstep : s.consume? now clock c = some step) :
    s.Conserves step.state := by
  unfold consume? at hstep
  split at hstep
  next c' call w hfind =>
    split at hstep
    · cases hstep
      exact h.conserves_finish hfind
    · cases hstep
  next hfree =>
    split at hstep
    next => cases hstep
    next e b hreceive =>
      cases hstep
      -- the chat writer receives from its own queue, the others from queues that hold no chat
      by_cases hc : c = .chatWriter
      · subst hc
        obtain ⟨hreceived, hqueued⟩ := h.steady_receive hreceive
        obtain ⟨hrecorded, hintake, hwritten⟩ :=
          hreceived.orderly.steady_record clock (fun _ => hfree) (.inl rfl)
        refine ⟨hreceived.trans hrecorded, ?_⟩
        change State.told (record { s with intake.bus := b } clock .chatWriter e).state = _
        rw [told, told, hwritten, queued_of_same hrecorded.consumers hintake, hqueued]
        cases he : History.chatRecord? e <;> simp [he, penned]
      · obtain ⟨d, q, hd, -, rfl⟩ := Bus.receive_eq_some hreceive
        have hreceived : s.Conserves _ := h.conserves_bus (.receive (s.place c)) rfl
          fun _ _ => if_neg (h.place_ne hc)
        refine hreceived.trans ?_
        have horderly := hreceived.orderly
        cases c with
        | engine => exact horderly.conserves_warn now e
        | summarizer => exact horderly.conserves_summarize now e
        | chatWriter => exact absurd rfl hc
        | connectionWriter =>
          exact horderly.conserves_record clock nofun (h.chatRecord?_eq_none hreceive)

theorem conserves_step (h : s.Orderly) {now : Instant} {clock : Span} {t : Task}
    (ht : ∀ id, t ≠ .ingest id) {step : Step Task State} (hstep : s.step? now clock t = some step) :
    s.Conserves step.state := by
  cases t with
  | ingest id => exact absurd rfl (ht id)
  | consume c => exact h.conserves_consume hstep
  | carry hand => exact h.conserves_carry hstep

/-- An event of chat waits for the chat writer from its publication on, if there is room for it. -/
theorem publish (h : s.Orderly) {capacity dropped : Nat}
    (hterms : s.desk?.map Subscriber.terms = some (true, capacity, dropped)) {e : Event}
    (he : e.kind.isChat = true) {router : Router} {unhandled : List String}
    (hs' : s' = { s with intake := ⟨router, (s.intake.bus.publish e).1, unhandled⟩ }) :
    s'.Orderly ∧
      if s.queued.length < capacity then
        s'.desk?.map Subscriber.terms = some (true, capacity, dropped) ∧
          s'.told = s.told ++ (History.chatRecord? e).toList
      else s'.desk?.map Subscriber.terms = some (true, capacity, dropped + 1) := by
  obtain ⟨d, hd, hinterest, -⟩ := h.exists_desk
  have hd' : s'.desk? = some (d.offer e).1 := by
    have hnext : s'.desk? = s.desk?.map (·.react (s.place .chatWriter) (.publish e)) := by
      rw [hs']
      exact desk?_step s (.publish e) rfl
    rw [hnext, hd]
    rfl
  have hwants : d.interest.wants e.kind = true := by
    rw [hinterest]
    cases hkind : e.kind <;> first | rfl | (rw [hkind] at he; cases he)
  rw [hd, Option.map_some, Option.some.injEq] at hterms
  simp only [Subscriber.terms, Prod.mk.injEq] at hterms
  obtain ⟨hopen, rfl, rfl⟩ := hterms
  have hqueued : s.queued = d.queue.items := by rw [queued, hd]; rfl
  have horderly : s'.Orderly := by
    have hserved : (s.intake.bus.publish e).1.Serves (s.consumers.map Consumer.interest) :=
      h.served.step (.publish e) rfl
    rw [hs']
    exact ⟨h.answers, h.manned, hserved, h.calls, h.errands⟩
  refine ⟨horderly, ?_⟩
  rw [hqueued]
  split
  next hroom =>
    obtain ⟨q, hitems, hcapacity, hq, hoffer⟩ := Subscriber.offer_of_hasRoom hwants ⟨hopen, hroom⟩
    rw [hd', hoffer]
    refine ⟨by simp [Subscriber.terms, hq, hcapacity], ?_⟩
    have hqueued' : s'.queued = s.queued ++ [e] := by
      rw [queued, hd', hoffer, hqueued]
      exact hitems
    rw [told, told, hqueued', List.filterMap_append, hs', ← List.append_assoc]
    cases he' : History.chatRecord? e <;> simp [he', penned]
  next hfull =>
    have hoffer := Subscriber.offer_of_not_hasRoom (s := d) hwants fun hroom => hfull hroom.2
    rw [hd', hoffer]
    simp [Subscriber.terms, hopen]

end Orderly
end State
end Pipeline
end Moderation
