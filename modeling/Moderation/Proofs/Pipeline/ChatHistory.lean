import Moderation.Proofs.Pipeline.Conveyance
import Moderation.Proofs.Pipeline.Subscriptions
/-!
The chat history of a server. What was said in the batches that were taken in comes into the history
in its order, behind what was there; it is all there once the pipeline has come to rest, and the
pipeline can always come to rest.
-/
namespace Moderation.Pipeline
open Ingest Log Schedule Time Worker

namespace State
variable {s : State}

/-- What the chat writer still has to do: to take events, and to finish its call. -/
def load (s : State) : Nat := 2 * s.queued.length + (s.isWaiting .chatWriter).toNat

theorem find?_eq_none_iff {c : Consumer} :
    s.calls.find? (·.1 = c) = none ↔ s.isWaiting c = false := by
  simp [isWaiting]

theorem find?_of_isWaiting {c : Consumer} (h : s.isWaiting c = true) :
    ∃ call w, s.calls.find? (·.1 = c) = some (c, call, w) := by
  cases hfind : s.calls.find? (·.1 = c) with
  | none => simp [find?_eq_none_iff.1 hfind] at h
  | some x =>
    obtain ⟨c', call, w⟩ := x
    obtain rfl : c' = c := by simpa using List.find?_some hfind
    exact ⟨call, w, rfl⟩

/-- A chat writer with something to do can do it, sooner or later. -/
theorem Orderly.exists_consume (h : s.Orderly) (hload : s.load ≠ 0) (now : Instant) :
    ∃ clock step, s.consume? now clock .chatWriter = some step ∧ step.state.load < s.load := by
  cases hcall : s.isWaiting .chatWriter with
  | true =>
    obtain ⟨call, w, hfind⟩ := find?_of_isWaiting hcall
    have hdue : call.due ≤ call.due := Int.le_refl call.due.nanos
    have hover : call.isOver call.due = true := decide_eq_true hdue
    refine ⟨call.due, _, by rw [consume?, hfind]; exact if_pos hover, ?_⟩
    have hdone : isWaiting { s.write call w with
        calls := s.calls.filter (·.1 ≠ .chatWriter) } .chatWriter = false :=
      find?_eq_none_iff.1 (find?_filter_self s.calls)
    simp only [load, hcall, hdone]
    exact Nat.lt_succ_self _
  | false =>
    have hfind := find?_eq_none_iff.2 hcall
    rcases hreceive : s.intake.bus.receive (s.place .chatWriter) with ⟨_ | e, b⟩
    · obtain ⟨d, hd, -⟩ := h.exists_desk
      have hempty := Bus.items_of_receive_eq_none (congrArg Prod.fst hreceive) hd
      exact absurd (by simp [load, queued, hd, hempty, hcall]) hload
    · obtain ⟨hreceived, hqueued⟩ := h.steady_receive hreceive
      obtain ⟨hrecorded, hintake, -⟩ :=
        hreceived.orderly.steady_record .zero (fun _ => hfind) (.inl rfl) (e := e)
      have hrest := queued_of_same hrecorded.consumers hintake
      refine ⟨.zero, record { s with intake.bus := b } .zero .chatWriter e, ?_, ?_⟩
      · rw [consume?, hfind]
        simp only [hreceive]
        rfl
      · have hbusy := Bool.toNat_le
          ((record { s with intake.bus := b } .zero .chatWriter e).state.isWaiting .chatWriter)
        rw [load, load, hrest, hqueued, List.length_cons]
        omega

end State

namespace Relay

structure IsQuiet (server : Server) (r : Relay) : Prop where
  batch : r.batch = none
  waits : (r.state.intake.router.route server.id).queue.items = []
  queued : r.state.queued = []
  calls : r.state.isWaiting .chatWriter = false

namespace Conveys
variable {server : Server} {capacity : Nat} {limit : Span} {before : List ChatRecord} {r : Relay}
  {entered current : List Utterance} {waiting : List (List Utterance)} {dropped : Nat}

/-- The chat writer can catch up with what has been entered. -/
theorem exists_idle (h : r.Conveys server capacity limit before entered current waiting dropped)
    (now : Instant) : ∃ r', r.Reaches server r' ∧
      r'.Conveys server capacity limit before entered current waiting dropped ∧
      r'.state.load = 0 ∧ r'.batch = r.batch := by
  -- each move of the chat writer leaves it less to do
  induction hload : r.state.load using Nat.strongRecOn generalizing r with
  | ind n ih =>
    by_cases hidle : n = 0
    · exact ⟨r, .refl server r, h, hload.trans hidle, rfl⟩
    · obtain ⟨clock, step, hstep, hless⟩ := h.orderly.exists_consume (by omega) now
      have hmove : r.step server (.go (.consume .chatWriter) now clock) =
          { r with state := step.state } := by
        simp [Relay.step, Relay.go, State.step?, hstep]
      obtain ⟨r', hreaches, hr'⟩ := ih _ (hload ▸ hless)
        (h.conserves (h.orderly.conserves_consume hstep)) rfl
      exact ⟨r', .step rfl (hmove ▸ hreaches), hr'⟩

/-- The batch under way can be brought to its end, with nothing missed. -/
theorem exists_ended (hcapacity : 1 ≤ capacity)
    (h : r.Conveys server capacity limit before entered current waiting dropped)
    (now : Instant) : ∃ r', r.Reaches server r' ∧
      r'.Conveys server capacity limit before (entered ++ current) [] waiting dropped ∧
      r'.batch = none := by
  induction current generalizing r entered with
  | nil =>
    obtain ⟨hnext, hended⟩ := h.enter_end rfl now
    rw [List.append_nil]
    exact ⟨_, .step (m := .enter now) rfl (.refl server _), hnext, hended⟩
  | cons u current ih =>
    obtain ⟨r₁, hreaches, h₁, hidle, -⟩ := h.exists_idle now
    obtain ⟨dropped', h₂, hroom⟩ := h₁.enter_line now
    obtain rfl : dropped' = dropped := hroom (by
      have hload : r₁.state.queued.length = 0 := by
        simp only [State.load] at hidle
        omega
      omega)
    obtain ⟨r', hreaches', h', hended⟩ := ih h₂
    rw [List.append_assoc] at h'
    exact ⟨r', hreaches.trans (.step (m := .enter now) rfl hreaches'), h', hended⟩

/-- A pipeline with no batch under way can take all batches that wait. -/
theorem exists_taken (hcapacity : 1 ≤ capacity)
    (h : r.Conveys server capacity limit before entered [] waiting dropped)
    (hbatch : r.batch = none) (now : Instant) : ∃ r', r.Reaches server r' ∧
      r'.Conveys server capacity limit before (entered ++ waiting.flatten) [] [] dropped ∧
      r'.batch = none := by
  induction waiting generalizing r entered with
  | nil =>
    rw [List.flatten_nil, List.append_nil]
    exact ⟨r, .refl server r, h, hbatch⟩
  | cons us waiting ih =>
    obtain ⟨r₁, hreaches, h₁, hended⟩ := (h.begin_cons hbatch).exists_ended hcapacity now
    obtain ⟨r', hreaches', h', hidle⟩ := ih h₁ hended
    rw [List.append_assoc] at h'
    exact ⟨r', .step (m := .begin) rfl (hreaches.trans hreaches'), h', hidle⟩

/-- Tasks can bring the pipeline to rest, with nothing missed. -/
theorem exists_quiet (hcapacity : 1 ≤ capacity)
    (h : r.Conveys server capacity limit before entered current waiting dropped) (now : Instant) :
    ∃ r', r.Reaches server r' ∧ r'.IsQuiet server ∧
      r'.Conveys server capacity limit before r.sent [] [] dropped := by
  obtain ⟨r₁, hended, h₁, hbatch₁⟩ := h.exists_ended hcapacity now
  obtain ⟨r₂, htaken, h₂, hbatch₂⟩ := h₁.exists_taken hcapacity hbatch₁ now
  obtain ⟨r', hidle, h', hload, hbatch'⟩ := h₂.exists_idle now
  rw [← h.sent] at h'
  refine ⟨r', hended.trans (htaken.trans hidle), ⟨hbatch'.trans hbatch₂, h'.carries.waits, ?_, ?_⟩,
    h'⟩
  · rw [State.load] at hload
    exact List.eq_nil_of_length_eq_zero (by omega)
  · rw [State.load] at hload
    exact Bool.toNat_eq_zero.1 (by omega)

theorem dropped_eq (h : r.Conveys server capacity limit before entered current waiting dropped) :
    r.state.desk?.map (·.dropped) = some dropped := by
  have hterms := congrArg (Option.map (·.2.2)) h.terms
  rwa [Option.map_map] at hterms

/-- The history never holds anything but a first part of what was sent. -/
theorem chat_prefix (h : r.Conveys server capacity limit before entered current waiting 0)
    (htimes : Chronological r.sent) :
    r.state.archive.store.chat <+: before ++ r.sent.filterMap (·.record? server) := by
  have hentered : entered.filterMap (·.record? server) <+: r.sent.filterMap (·.record? server) := by
    rw [h.sent, List.append_assoc, List.filterMap_append]
    exact List.prefix_append ..
  have hchat : r.state.archive.store.chat <+: r.state.told :=
    (List.prefix_append ..).trans (List.prefix_append ..)
  rw [h.told htimes rfl] at hchat
  exact hchat.trans ((List.prefix_append_right_inj _).2 hentered)

/-- At rest the history holds all that was sent. -/
theorem chat_of_quiet (h : r.Conveys server capacity limit before entered current waiting 0)
    (htimes : Chronological r.sent) (hquiet : r.IsQuiet server) :
    r.state.archive.store.chat = before ++ r.sent.filterMap (·.record? server) := by
  have hcurrent : current = [] := by
    have hbatch := h.batch
    rwa [hquiet.batch] at hbatch
  have hwaiting : waiting = [] := by
    have hwaits := h.carries.waits
    rw [hquiet.waits] at hwaits
    exact List.map_eq_nil_iff.1 hwaits.symm
  have hsent : r.sent = entered := by simp [h.sent, hcurrent, hwaiting]
  have htold : r.state.told = r.state.archive.store.chat := by
    rw [State.told, State.penned, State.find?_eq_none_iff.2 hquiet.calls, hquiet.queued]
    simp
  rw [← htold, h.told htimes rfl, hsent]

end Conveys

end Relay

section Start
variable {settings : Settings} {store : Store} {fault : Fault} {canOpen : String → Bool} {s : State}

theorem bus_zero (filterEnabled : Bool) :
    Consumer.bus 0 (Consumer.all filterEnabled) = .error .zeroCapacity := by
  cases filterEnabled <;> rfl

theorem chatWriter_mem_all (filterEnabled : Bool) : .chatWriter ∈ Consumer.all filterEnabled := by
  simp [Consumer.all]

/-- What a pipeline starts with. There is room for events if it starts. -/
theorem start_eq_ok (h : State.start settings store fault canOpen = .ok s) :
    1 ≤ settings.busQueueCapacity ∧ s.consumers = Consumer.all settings.filterEnabled ∧
      s.intake = ⟨.start settings.ingestQueueCapacity,
        ⟨(Consumer.all settings.filterEnabled).map
          (Consumer.subscriber settings.busQueueCapacity)⟩, []⟩ ∧
      s.archive = ⟨store, fault, .ofSeconds settings.storeTimeoutSeconds⟩ ∧
      s.pool = .start settings.workers settings.workerQueueCapacity ∧ s.calls = [] := by
  cases hfilters : loadFilters settings ⟨store, fault, .ofSeconds settings.storeTimeoutSeconds⟩ with
  | error cause =>
    rw [State.start, hfilters] at h
    cases h
  | ok filters =>
    have hcapacity : 1 ≤ settings.busQueueCapacity := by
      by_contra hzero
      have hnone : settings.busQueueCapacity = 0 := by omega
      simp only [State.start, hfilters, hnone, bus_zero] at h
      cases h
    rw [start_eq hcapacity hfilters] at h
    split at h
    · cases h
      exact ⟨hcapacity, rfl, rfl, rfl, rfl, rfl⟩
    · cases h

/-- Nothing is on its way when a pipeline starts. -/
theorem conveys_start (h : State.start settings store fault canOpen = .ok s)
    (hfault : Ban.Answers fault (.ofSeconds settings.storeTimeoutSeconds)) (server : Server) :
    (Relay.start s).Conveys server settings.busQueueCapacity
      (.ofSeconds settings.storeTimeoutSeconds) store.chat [] [] [] 0 := by
  obtain ⟨-, hconsumers, hintake, harchive, hpool, hcalls⟩ := start_eq_ok h
  have hmanned : .chatWriter ∈ s.consumers := hconsumers ▸ chatWriter_mem_all _
  have hdesk : s.desk? = some (Consumer.subscriber settings.busQueueCapacity .chatWriter) := by
    rw [State.desk?, State.place, hintake, ← hconsumers, List.getElem?_map,
      List.getElem?_idxOf hmanned]
    rfl
  have hserved : s.intake.bus.Serves (s.consumers.map Consumer.interest) := by
    rw [hintake, hconsumers]
    refine ⟨?_, fun x hx => ?_⟩
    · rw [List.map_map]
      rfl
    · obtain ⟨c, -, rfl⟩ := List.mem_map.1 hx
      exact fun e he => absurd he List.not_mem_nil
  have herrands : ∀ e ∈ s.pool.jobs, e.IsQuiet := by
    rw [hpool, Pool.jobs_start]
    exact fun e he => absurd he List.not_mem_nil
  have hroute : s.intake.router.route server.id =
      ⟨.ofCapacity settings.ingestQueueCapacity, .fresh⟩ := by
    rw [hintake]
    rfl
  refine ⟨⟨by rwa [Relay.start, harchive], hmanned, hserved, ?_, herrands⟩, ?_, ⟨?_, ?_, ?_⟩, ?_,
    rfl, rfl, ?_, fun _ => ?_, fun _ _ => ?_⟩
  · simp [Relay.start, hcalls]
  · rw [Relay.start, harchive]
  · rw [Relay.start, hintake]
    rfl
  · rw [Relay.start, hintake]
    exact fun id _ => rfl
  · rw [Relay.start, hroute]
    rfl
  · rw [Relay.start, hdesk]
    rfl
  · exact harchive ▸ List.prefix_refl _
  · rw [Relay.ingestor, Relay.start, hroute]
    rfl
  · simp [Relay.start, State.told, State.penned, State.queued, hdesk, hcalls, harchive,
      Consumer.subscriber, Queue.empty]

end Start

/-- What is said on one server comes into the chat history. While it is on its way, the history
holds what was there and a first part of what was sent, in its order; once nothing is left to do, it
holds what was there and all that was sent. The tasks can always get there, with nothing missed. -/
theorem chat_of_batches {settings : Settings} {store : Store} {fault : Fault}
    {canOpen : String → Bool} {s : State}
    (hstart : State.start settings store fault canOpen = .ok s)
    (hfault : Ban.Answers fault (.ofSeconds settings.storeTimeoutSeconds)) (server : Server)
    {moves : List Relay.Move}
    (hmoves : ∀ f, .fault f ∈ moves → Ban.Answers f (.ofSeconds settings.storeTimeoutSeconds))
    (htimes : Chronological ((Relay.start s).run server moves).sent)
    (hdropped : ((Relay.start s).run server moves).state.desk?.map (·.dropped) = some 0) :
    let r := (Relay.start s).run server moves
    let whole := store.chat ++ r.sent.filterMap (·.record? server)
    store.chat <+: r.state.archive.store.chat ∧ r.state.archive.store.chat <+: whole ∧
    (r.IsQuiet server → r.state.archive.store.chat = whole) ∧
    ∃ r', r.Reaches server r' ∧ r'.IsQuiet server ∧
      r'.state.desk?.map (·.dropped) = some 0 ∧ r'.state.archive.store.chat = whole := by
  intro r whole
  obtain ⟨hcapacity, -⟩ := start_eq_ok hstart
  obtain ⟨entered, current, waiting, dropped, h⟩ := (conveys_start hstart hfault server).run hmoves
  obtain rfl : dropped = 0 := Option.some.inj (h.dropped_eq.symm.trans hdropped)
  obtain ⟨r', hreaches, hquiet, h'⟩ := h.exists_quiet hcapacity ⟨0⟩
  have hsent : r'.sent = r.sent := by simp [h'.sent, r]
  have hall := h'.chat_of_quiet (by rwa [hsent]) hquiet
  rw [hsent] at hall
  exact ⟨h.chat, h.chat_prefix htimes, h.chat_of_quiet htimes, r', hreaches, hquiet, h'.dropped_eq,
    hall⟩

theorem eq_ok_of_toOption {ε α : Type} {x : Except ε α} {a : α} (h : x.toOption = some a) :
    x = .ok a := by
  cases x with
  | error e => cases h
  | ok b => exact congrArg Except.ok (Option.some.inj h)

/-- A player whose name looks like the tag of another. -/
def imitator (toTeam : Bool) (message : String) (h : '\n' ∉ message.toList) : Utterance where
  head := sampleHead
  name := "a<1><[U:1:9]><Red>"
  number := ['2']
  speaker := ⟨76561197960265729⟩
  team := "Blue".toList
  toTeam := toTeam
  message := message
  name_plain := by decide
  number_decimal := List.all_eq_true.1 (by decide)
  speaker_valid := by decide
  team_plain := by decide
  message_line := h

/-- The store becomes slow, the chat writer goes on between two lines, and another batch comes. -/
def imitatorMoves : List Relay.Move :=
  [.submit [imitator false "gg\" say \"" (by decide), imitator true "" (by decide)],
    .fault ⟨.ofSeconds 1, false⟩, .begin, .enter ⟨0⟩, .go (.consume .chatWriter) ⟨0⟩ .zero,
    .enter ⟨0⟩, .submit [imitator true "ok" (by decide)]]

/-- There is room for one event only, and two of the three messages are not empty. -/
theorem chat_of_batches_imitator :
    ∃ s state, Settings.ofVariables fewVariables = .ok s ∧
      State.start s .empty .none (fun _ => true) = .ok state ∧ s.busQueueCapacity = 1 ∧
      ∃ r', ((Relay.start state).run ⟨1, "s"⟩ imitatorMoves).Reaches ⟨1, "s"⟩ r' ∧
        r'.IsQuiet ⟨1, "s"⟩ ∧ r'.state.archive.store.chat =
          [⟨⟨76561197960265729⟩, 1, "a<1><[U:1:9]><Red>", "gg\" say \"", false, ⟨1704164645, 0⟩⟩,
            ⟨⟨76561197960265729⟩, 1, "a<1><[U:1:9]><Red>", "ok", true, ⟨1704164645, 0⟩⟩] := by
  let report (state : State) :=
    let r := (Relay.start state).run ⟨1, "s"⟩ imitatorMoves
    (r.sent.map (·.head.stamp), r.sent.filterMap (·.record? ⟨1, "s"⟩),
      r.state.desk?.map (·.dropped))
  have hread : (Settings.ofVariables fewVariables).toOption.bind (fun s =>
      (State.start s .empty .none (fun _ => true)).toOption.map fun state =>
        (s.busQueueCapacity, s.storeTimeoutSeconds, report state)) =
      some (1, 5, [⟨1704164645, 0⟩, ⟨1704164645, 0⟩, ⟨1704164645, 0⟩],
        [⟨⟨76561197960265729⟩, 1, "a<1><[U:1:9]><Red>", "gg\" say \"", false, ⟨1704164645, 0⟩⟩,
          ⟨⟨76561197960265729⟩, 1, "a<1><[U:1:9]><Red>", "ok", true, ⟨1704164645, 0⟩⟩],
        some 0) := by decide +kernel
  obtain ⟨s, hs, hread⟩ := Option.bind_eq_some_iff.1 hread
  obtain ⟨state, hstate, hread⟩ := Option.map_eq_some_iff.1 hread
  simp only [report, Prod.mk.injEq] at hread
  obtain ⟨hcapacity, htimeout, htimes, hsent, hdropped⟩ := hread
  replace hs := eq_ok_of_toOption hs
  replace hstate := eq_ok_of_toOption hstate
  have hfault : Ban.Answers .none (.ofSeconds s.storeTimeoutSeconds) := by
    rw [htimeout]
    decide
  have hslow : Ban.Answers ⟨.ofSeconds 1, false⟩ (.ofSeconds s.storeTimeoutSeconds) := by
    rw [htimeout]
    decide
  have hmoves : ∀ f, .fault f ∈ imitatorMoves →
      Ban.Answers f (.ofSeconds s.storeTimeoutSeconds) := by
    intro f hf
    obtain rfl : f = ⟨.ofSeconds 1, false⟩ := by simpa [imitatorMoves] using hf
    exact hslow
  have hchronological : Chronological ((Relay.start state).run ⟨1, "s"⟩ imitatorMoves).sent := by
    refine List.pairwise_map.1 ?_
    rw [htimes]
    decide
  obtain ⟨-, -, -, r', hreaches, hquiet, -, hchat⟩ :=
    chat_of_batches hstate hfault ⟨1, "s"⟩ hmoves hchronological hdropped
  rw [hsent] at hchat
  exact ⟨s, state, hs, hstate, hcapacity, r', hreaches, hquiet, hchat⟩

end Moderation.Pipeline
