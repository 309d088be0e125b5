import Moderation.Proofs.Pipeline.Relay
/-!
Conveyance of what is said. Whatever happens to a relay, what was sent is what has been entered, the
batch under way and the batches that wait, in this order; and as long as the chat writer missed
nothing, it is told what has been entered.
-/
namespace Moderation
open Ingest Log Schedule Time Worker

theorem Time.Stamp.max_eq_right {a b : Stamp} (h : a ≤ b) : a.max b = b := by
  unfold Stamp.max
  split
  next => rfl
  next hlt =>
    have hab : a.second < b.second ∨ (a.second = b.second ∧ a.nanos ≤ b.nanos) := h
    have hba : ¬ (a.second < b.second ∨ (a.second = b.second ∧ a.nanos < b.nanos)) := hlt
    cases a
    cases b
    simp only [Stamp.mk.injEq] at hab hba ⊢
    omega

def Log.Chronological (us : List Utterance) : Prop :=
  us.Pairwise fun u v => u.head.stamp ≤ v.head.stamp

namespace Ingest

/-- The line of an utterance becomes its event, at a time that does not go back. -/
theorem Ingestor.ingest_line (i : Ingestor) (now : Stamp) (server : Server) (u : Utterance) :
    i.ingest now server [u.line] =
      ([⟨u.line, .known, { u.event server with occurredAt := i.clamp u.head.stamp }⟩],
        .ok ⟨some (i.clamp u.head.stamp)⟩) := by
  have hstanding : Standing.of ⟨u.event server, none⟩ = .known := by
    simp only [Standing.of, Utterance.event, Utterance.kind]
    cases u.toTeam <;> rfl
  simp only [ingest, List.map_cons, List.map_nil, follow, Reading.classified, u.classify_line,
    enter, hstanding]
  rfl

theorem Ingestor.clamp_of_chronological {i : Ingestor} {entered : List Utterance} {u : Utterance}
    (hseen : i.lastSeen = entered.getLast?.map (·.head.stamp))
    (h : Chronological (entered ++ [u])) : i.clamp u.head.stamp = u.head.stamp := by
  rw [clamp, hseen]
  cases hlast : entered.getLast? with
  | none => rfl
  | some v =>
    exact Stamp.max_eq_right ((List.pairwise_append.1 h).2.2 v (List.mem_of_getLast? hlast) u
      (List.mem_singleton_self u))

theorem Router.submit_of_ok {router : Router} {b : Batch} {queue : Queue Batch}
    (h : (router.route b.server.id).queue.offer b = .ok queue) :
    router.submit b = (.ok (), { router with
      routes := router.routes.insert b.server.id { router.route b.server.id with queue } }) := by
  simp [submit, h]

theorem Router.submit_of_error {router : Router} {b : Batch} {cause : Refusal}
    (h : (router.route b.server.id).queue.offer b = .error cause) :
    router.submit b = (.error (.ofRefusal b.server.name cause), { router with
      routes := router.routes.insert b.server.id (router.route b.server.id) }) := by
  simp [submit, h]

theorem Router.route_insert (router : Router) (id : Int) (route : Route) :
    ({ router with routes := router.routes.insert id route } : Router).route id = route := by
  simp [Router.route, Table.get?_insert]

end Ingest

namespace Pipeline

/-- A router on which nothing waits but these batches of one server. -/
structure Carries (server : Server) (router : Router) (waiting : List (List Utterance)) :
    Prop where
  goesOn : router.isCancelled = false
  others : ∀ id, id ≠ server.id → router.routes.get? id = none
  waits : (router.route server.id).queue.items = waiting.map (batchOf server)

theorem Carries.insert {server : Server} {router : Router} {waiting : List (List Utterance)}
    (h : Carries server router waiting) {route : Route} {waiting' : List (List Utterance)}
    (hitems : route.queue.items = waiting'.map (batchOf server)) :
    Carries server { router with routes := router.routes.insert server.id route } waiting' where
  goesOn := h.goesOn
  others id hid := by
    rw [Table.get?_insert, if_neg (Ne.symm hid)]
    exact h.others id hid
  waits := by rw [Router.route_insert, hitems]

namespace Relay

def ingestor (server : Server) (r : Relay) : Ingestor :=
  (r.batch.map (·.1)).getD (r.state.intake.router.route server.id).ingestor

/-- How far a relay is: what has been entered, what is left of the batch under way, the batches that
wait, and how much the chat writer missed. -/
structure Conveys (server : Server) (capacity : Nat) (limit : Span) (before : List ChatRecord)
    (r : Relay) (entered current : List Utterance) (waiting : List (List Utterance))
    (dropped : Nat) : Prop where
  orderly : r.state.Orderly
  limit : r.state.archive.limit = limit
  carries : Carries server r.state.intake.router waiting
  terms : r.state.desk?.map Subscriber.terms = some (true, capacity, dropped)
  batch : r.batch.elim (current = []) (·.2 = batchOf server current)
  sent : r.sent = entered ++ current ++ waiting.flatten
  chat : before <+: r.state.archive.store.chat
  seen : Chronological r.sent →
    (r.ingestor server).lastSeen = entered.getLast?.map (·.head.stamp)
  told : Chronological r.sent → dropped = 0 →
    r.state.told = before ++ entered.filterMap (·.record? server)

namespace Conveys
variable {server : Server} {capacity : Nat} {limit : Span} {before : List ChatRecord} {r : Relay}
  {entered current : List Utterance} {waiting : List (List Utterance)} {dropped : Nat}

theorem conserves (h : r.Conveys server capacity limit before entered current waiting dropped)
    {s' : State} (hs' : r.state.Conserves s') :
    Conveys server capacity limit before { r with state := s' } entered current waiting
      dropped where
  orderly := hs'.orderly
  limit := hs'.limit.trans h.limit
  carries := by
    rw [hs'.router]
    exact h.carries
  terms := hs'.terms.trans h.terms
  batch := h.batch
  sent := h.sent
  chat := h.chat.trans hs'.chat
  seen hsent := by
    rw [ingestor, hs'.router]
    exact h.seen hsent
  told hsent hdropped := hs'.told.trans (h.told hsent hdropped)

theorem fault (h : r.Conveys server capacity limit before entered current waiting dropped)
    {f : Fault} (hf : Ban.Answers f limit) :
    (r.step server (.fault f)).Conveys server capacity limit before entered current waiting
      dropped where
  orderly := ⟨h.limit ▸ hf, h.orderly.manned, h.orderly.served, h.orderly.calls, h.orderly.errands⟩
  limit := h.limit
  carries := h.carries
  terms := h.terms
  batch := h.batch
  sent := h.sent
  chat := h.chat
  seen := h.seen
  told := h.told

/-- Another route for the server, and something more that was sent. -/
theorem reroute (h : r.Conveys server capacity limit before entered current waiting dropped)
    (route : Route) {current' : List Utterance} {waiting' : List (List Utterance)}
    (hitems : route.queue.items = waiting'.map (batchOf server))
    {batch : Option (Ingestor × Batch)}
    (hbatch : batch.elim (current' = []) (·.2 = batchOf server current'))
    (hingestor : (batch.map (·.1)).getD route.ingestor = r.ingestor server)
    (later : List Utterance)
    (hlater : current' ++ waiting'.flatten = current ++ waiting.flatten ++ later) :
    Conveys server capacity limit before
      { state := { r.state with intake.router := { r.state.intake.router with
          routes := r.state.intake.router.routes.insert server.id route } }
        batch := batch
        sent := r.sent ++ later } entered current' waiting' dropped where
  orderly := ⟨h.orderly.answers, h.orderly.manned, h.orderly.served, h.orderly.calls,
    h.orderly.errands⟩
  limit := h.limit
  carries := h.carries.insert hitems
  terms := h.terms
  batch := hbatch
  sent := by simp only [h.sent, List.append_assoc, hlater]
  chat := h.chat
  seen hsent := by
    rw [ingestor, Router.route_insert, hingestor]
    exact h.seen (List.pairwise_append.1 hsent).1
  told hsent := h.told (List.pairwise_append.1 hsent).1

theorem submit (h : r.Conveys server capacity limit before entered current waiting dropped)
    (us : List Utterance) : ∃ waiting',
      (r.submit server us).Conveys server capacity limit before entered current waiting'
        dropped := by
  cases hoffer : (r.state.intake.router.route server.id).queue.offer (batchOf server us) with
  | ok queue =>
    obtain ⟨hitems, -, -⟩ := Queue.items_offer hoffer
    refine ⟨waiting ++ [us], ?_⟩
    rw [Relay.submit, Router.submit_of_ok hoffer]
    refine h.reroute { r.state.intake.router.route server.id with queue } ?_ h.batch rfl us ?_
    · simp [hitems, h.carries.waits]
    · simp
  | error cause =>
    have hsame := h.reroute _ h.carries.waits h.batch rfl [] (List.append_nil _).symm
    rw [List.append_nil] at hsame
    refine ⟨waiting, ?_⟩
    rw [Relay.submit, Router.submit_of_error hoffer]
    exact hsame

/-- The batch that has waited longest is begun. -/
theorem begin_cons {us : List Utterance}
    (h : r.Conveys server capacity limit before entered [] (us :: waiting) dropped)
    (hbatch : r.batch = none) :
    (r.begin server).Conveys server capacity limit before entered us waiting dropped := by
  have hwaits := h.carries.waits
  obtain ⟨route, hget, hroute⟩ : ∃ route,
      r.state.intake.router.routes.get? server.id = some route ∧
        r.state.intake.router.route server.id = route := by
    cases hget : r.state.intake.router.routes.get? server.id with
    | none =>
      rw [Router.route, hget] at hwaits
      cases hwaits
    | some route => exact ⟨route, rfl, Intake.route_of_get? hget⟩
  rw [hroute] at hwaits
  cases hqueue : route.queue.take? with
  | none =>
    rw [Queue.items_of_take?_eq_none hqueue] at hwaits
    cases hwaits
  | some taken =>
    obtain ⟨b, queue⟩ := taken
    obtain ⟨hitems, -, -⟩ := Queue.items_take? hqueue
    rw [hitems] at hwaits
    obtain ⟨rfl, hrest⟩ := List.cons.inj hwaits
    have hingestor : r.ingestor server = route.ingestor := by
      rw [ingestor, hbatch, hroute]
      rfl
    have hbegun : (some (route.ingestor, batchOf server us)).elim (us = [])
        (·.2 = batchOf server us) := rfl
    have hnext := h.reroute { route with queue } hrest hbegun hingestor.symm [] (by simp)
    have htake : r.state.intake.router.take? server.id =
        some (batchOf server us, { r.state.intake.router with
          routes := r.state.intake.router.routes.insert server.id { route with queue } }) := by
      simp [Router.take?, hget, hqueue]
    rw [List.append_nil] at hnext
    simp only [Relay.begin, hbatch, htake, Router.route_insert]
    exact hnext

theorem begin (h : r.Conveys server capacity limit before entered current waiting dropped) :
    ∃ current' waiting',
      (r.begin server).Conveys server capacity limit before entered current' waiting' dropped := by
  cases hbatch : r.batch with
  | some b =>
    have hsame : r.begin server = r := by simp [Relay.begin, hbatch]
    exact ⟨current, waiting, by rwa [hsame]⟩
  | none =>
    obtain rfl : current = [] := by
      have hcurrent := h.batch
      rwa [hbatch] at hcurrent
    cases waiting with
    | cons us waiting => exact ⟨us, waiting, h.begin_cons hbatch⟩
    | nil =>
      have hsame : r.begin server = r := by
        cases htake : r.state.intake.router.take? server.id with
        | none => simp [Relay.begin, hbatch, htake]
        | some taken =>
          obtain ⟨route, queue, hget, hqueue, -⟩ := Router.take?_eq_some htake
          have hwaits := h.carries.waits
          rw [Intake.route_of_get? hget, (Queue.items_take? hqueue).1] at hwaits
          cases hwaits
      exact ⟨[], [], by rwa [hsame]⟩

/-- The batch under way comes to its end. -/
theorem enter_end (h : r.Conveys server capacity limit before entered current waiting dropped)
    (hcurrent : current = []) (now : Instant) :
    (r.enter server now).Conveys server capacity limit before entered [] waiting dropped ∧
      (r.enter server now).batch = none := by
  subst hcurrent
  unfold enter
  split
  next hbatch => exact ⟨h, hbatch⟩
  next i origin hbatch =>
    have hingestor : i = r.ingestor server := by simp [ingestor, hbatch]
    have hended : (none : Option (Ingestor × Batch)).elim ([] = ([] : List Utterance))
        (·.2 = batchOf server []) := rfl
    have hnext := h.reroute { r.state.intake.router.route server.id with ingestor := i }
      h.carries.waits hended hingestor [] (by simp)
    rw [List.append_nil] at hnext
    exact ⟨hnext, rfl⟩
  next i origin line lines hbatch =>
    have hempty := h.batch
    rw [hbatch] at hempty
    cases hempty

/-- The next line of the batch under way is entered, and nothing is missed if there is room for an
event where the chat writer is waiting. -/
theorem enter_line {u : Utterance}
    (h : r.Conveys server capacity limit before entered (u :: current) waiting dropped)
    (now : Instant) : ∃ dropped',
      (r.enter server now).Conveys server capacity limit before (entered ++ [u]) current waiting
        dropped' ∧ (r.state.queued.length < capacity → dropped' = dropped) := by
  obtain ⟨i, hbatch⟩ : ∃ i, r.batch = some (i, batchOf server (u :: current)) := by
    have hcurrent := h.batch
    cases hb : r.batch with
    | none =>
      rw [hb] at hcurrent
      cases hcurrent
    | some b =>
      rw [hb] at hcurrent
      exact ⟨b.1, congrArg some (Prod.ext rfl hcurrent)⟩
  have hingestor : r.ingestor server = i := by rw [ingestor, hbatch]; rfl
  let e : Event := { u.event server with occurredAt := i.clamp u.head.stamp }
  let s' : State := { r.state with
    intake := r.state.intake.publish [⟨u.line, .known, e⟩] }
  have henter : r.enter server now =
      ⟨s', some (⟨some (i.clamp u.head.stamp)⟩, batchOf server current), r.sent⟩ := by
    simp [enter, hbatch, batchOf, Ingestor.ingest_line, s', e]
  have hs' : s' = { r.state with intake := ⟨r.state.intake.router,
      (r.state.intake.bus.publish e).1, r.state.intake.unhandled ++ []⟩ } := rfl
  obtain ⟨horderly, hpublished⟩ := h.orderly.publish h.terms u.isChat_kind hs'
  -- a line under a header that is not too early becomes an event at the time of the header
  have hclamp : Chronological r.sent → i.clamp u.head.stamp = u.head.stamp := by
    intro hsent
    have hseen := h.seen hsent
    rw [hingestor] at hseen
    rw [h.sent] at hsent
    refine Ingestor.clamp_of_chronological hseen (hsent.sublist ?_)
    simp
  have hconveys : ∀ dropped', s'.desk?.map Subscriber.terms = some (true, capacity, dropped') →
      (dropped' = 0 → dropped = 0 ∧
        s'.told = r.state.told ++ (History.chatRecord? e).toList) →
      (r.enter server now).Conveys server capacity limit before (entered ++ [u]) current waiting
        dropped' := by
    intro dropped' hterms htold
    rw [henter]
    refine ⟨horderly, h.limit, h.carries, hterms, rfl, ?_, h.chat, fun hsent => ?_,
      fun hsent hdropped => ?_⟩
    · simp [h.sent]
    · simp [ingestor, hclamp hsent]
    · obtain ⟨hnone, htold⟩ := htold hdropped
      have he : e = u.event server := by
        simp only [e, hclamp hsent]
        rfl
      rw [htold, h.told hsent hnone, he, u.chatRecord?_event]
      cases hrecord : u.record? server <;> simp [hrecord]
  split at hpublished
  next hroom =>
    exact ⟨dropped, hconveys dropped hpublished.1 fun hdropped => ⟨hdropped, hpublished.2⟩,
      fun _ => rfl⟩
  next hfull =>
    exact ⟨dropped + 1, hconveys _ hpublished fun hnone => absurd hnone (Nat.succ_ne_zero dropped),
      fun hroom => absurd hroom hfull⟩

theorem enter (h : r.Conveys server capacity limit before entered current waiting dropped)
    (now : Instant) : ∃ entered' current' dropped',
      (r.enter server now).Conveys server capacity limit before entered' current' waiting
        dropped' := by
  cases current with
  | nil => exact ⟨entered, [], dropped, (h.enter_end rfl now).1⟩
  | cons u current =>
    obtain ⟨dropped', hnext, -⟩ := h.enter_line now
    exact ⟨entered ++ [u], current, dropped', hnext⟩

theorem run_enter (h : r.Conveys server capacity limit before entered current waiting dropped)
    (now : Instant) (n : Nat) : ∃ entered' current' dropped',
      (r.run server (.replicate n (.enter now))).Conveys server capacity limit before entered'
        current' waiting dropped' := by
  induction n generalizing r entered current dropped with
  | zero => exact ⟨entered, current, dropped, h⟩
  | succ n ih =>
    obtain ⟨entered', current', dropped', hnext⟩ := h.enter now
    exact ih hnext

theorem go (h : r.Conveys server capacity limit before entered current waiting dropped)
    (t : Task) (now : Instant) (clock : Span) : ∃ entered' current' waiting' dropped',
      (r.go server t now clock).Conveys server capacity limit before entered' current' waiting'
        dropped' := by
  by_cases ht : ∃ id, t = .ingest id
  · obtain ⟨id, rfl⟩ := ht
    by_cases hid : id = server.id
    · subst hid
      cases hbatch : r.batch with
      | some b =>
        have hsame : r.go server (.ingest server.id) now clock = r := by simp [Relay.go, hbatch]
        exact ⟨entered, current, waiting, dropped, by rwa [hsame]⟩
      | none =>
        obtain ⟨n, hwhole⟩ := go_ingest hbatch h.carries.goesOn now clock
        obtain ⟨current', waiting', hbegun⟩ := h.begin
        obtain ⟨entered', current', dropped', hnext⟩ := hbegun.run_enter now n
        rw [hwhole]
        exact ⟨entered', current', waiting', dropped', hnext⟩
    · have hsame : r.go server (.ingest id) now clock = r := by
        simp [Relay.go, hid, State.step?, State.ingest?, Intake.ingestNext?, Router.take?,
          h.carries.others id hid]
      exact ⟨entered, current, waiting, dropped, by rwa [hsame]⟩
  · have hne : t ≠ .ingest server.id := fun heq => ht ⟨_, heq⟩
    refine ⟨entered, current, waiting, dropped, ?_⟩
    unfold Relay.go
    rw [if_neg fun hbusy => hne hbusy.1]
    split
    next step hstep =>
      exact h.conserves (h.orderly.conserves_step (fun id heq => ht ⟨id, heq⟩) hstep)
    next => exact h

theorem step (h : r.Conveys server capacity limit before entered current waiting dropped)
    {m : Move} (hm : ∀ f, m = .fault f → Ban.Answers f limit) :
    ∃ entered' current' waiting' dropped',
      (r.step server m).Conveys server capacity limit before entered' current' waiting'
        dropped' := by
  cases m with
  | submit us =>
    obtain ⟨waiting', hnext⟩ := h.submit us
    exact ⟨entered, current, waiting', dropped, hnext⟩
  | begin =>
    obtain ⟨current', waiting', hnext⟩ := h.begin
    exact ⟨entered, current', waiting', dropped, hnext⟩
  | enter now =>
    obtain ⟨entered', current', dropped', hnext⟩ := h.enter now
    exact ⟨entered', current', waiting, dropped', hnext⟩
  | go t now clock => exact h.go t now clock
  | fault f => exact ⟨entered, current, waiting, dropped, h.fault (hm f rfl)⟩

theorem run (h : r.Conveys server capacity limit before entered current waiting dropped)
    {moves : List Move} (hmoves : ∀ f, .fault f ∈ moves → Ban.Answers f limit) :
    ∃ entered' current' waiting' dropped',
      (r.run server moves).Conveys server capacity limit before entered' current' waiting'
        dropped' := by
  induction moves generalizing r entered current waiting dropped with
  | nil => exact ⟨entered, current, waiting, dropped, h⟩
  | cons m moves ih =>
    obtain ⟨entered', current', waiting', dropped', hnext⟩ :=
      h.step (m := m) fun f hm => hmoves f (hm ▸ List.mem_cons_self)
    exact ih hnext fun f hf => hmoves f (List.mem_cons_of_mem _ hf)

end Conveys
end Relay
end Pipeline
end Moderation
