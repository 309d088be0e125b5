import Moderation.Proofs.Bus.Run
/-!
Runs of a bus. A subscriber gets the wanted events for which its own queue had room, in the order of
their publication, whatever becomes of the other subscribers.
-/
namespace Moderation.Bus

/-- The account of a run for the subscriber at a place. -/
structure Served (b : Bus) (i : Nat) (s : Subscriber) (ops : List Op) (s' : Subscriber) : Prop where
  get : (b.after ops).subscribers[i]? = some s'
  name : s'.name = s.name
  interest : s'.interest = s.interest
  capacity : s'.queue.capacity = s.queue.capacity
  isOpen : s'.queue.isOpen = true ↔ s.queue.isOpen = true ∧ .leave i ∉ ops
  offered : (b.offers i ops).map (·.1) = wanted s.interest ops
  items : s'.queue.isOpen = true →
    receipts i ops (b.answers ops) ++ s'.queue.items = s.queue.items ++ accepted (b.offers i ops)
  delivered : s'.delivered = s.delivered + (b.offers i ops).countP (·.2)
  dropped : s'.dropped = s.dropped + (b.offers i ops).countP (!·.2)

theorem wanted_cons (s : Subscriber) (op : Op) (ops : List Op) :
    wanted s.interest (op :: ops) =
      (s.offered? op).toList.map (·.1) ++ wanted s.interest ops := by
  cases op with
  | publish e =>
    cases hw : s.interest.wants e.kind <;> simp [wanted, Subscriber.offered?, hw]
  | _ => rfl

theorem exists_served {b : Bus} {i : Nat} {s : Subscriber} (h : b.subscribers[i]? = some s)
    (ops : List Op) : ∃ s', b.Served i s ops s' := by
  -- from the front, so that the accounts of the first step come before those of the others
  induction ops generalizing b s with
  | nil =>
    exact ⟨s, h, rfl, rfl, rfl, by simp, rfl, fun _ => by simp [receipts, offers, accepted], rfl,
      rfl⟩
  | cons op ops ih =>
    obtain ⟨hget, hoffer, hreceipt⟩ := step_at h op
    obtain ⟨s', hs⟩ := ih hget
    have hop := s.reacts i op
    have hinterest := hop.interest
    refine ⟨s', hs.get, hs.name.trans hop.name, hs.interest.trans hinterest,
      hs.capacity.trans hop.capacity, ?_, ?_, fun hopen => ?_, ?_, ?_⟩
    · rw [hs.isOpen, s.isOpen_react i op, List.mem_cons, not_or, and_assoc, ne_comm]
    · rw [offers, List.map_append, hs.offered, hoffer, hinterest, wanted_cons]
    · have hitems := hop.items (hs.isOpen.1 hopen).1
      rw [answers, receipts_cons, offers, accepted_append, hreceipt, hoffer]
      calc
        (s.taken? i op).toList ++ receipts i ops ((b.step op).2.answers ops) ++ s'.queue.items
          = (s.taken? i op).toList ++ ((s.react i op).queue.items ++
              accepted ((b.step op).2.offers i ops)) := by rw [List.append_assoc, hs.items hopen]
        _ = s.queue.items ++ (accepted (s.offered? op).toList ++
              accepted ((b.step op).2.offers i ops)) := by
          rw [← List.append_assoc, hitems, List.append_assoc]
    · rw [hs.delivered, hop.delivered, offers, hoffer, List.countP_append, Nat.add_assoc]
    · rw [hs.dropped, hop.dropped, offers, hoffer, List.countP_append, Nat.add_assoc]

/-- Alone on a bus, a subscriber does what its own steps ask. -/
theorem step_alone (s : Subscriber) {op : Op} (h : (own? 0 op).isSome = true) :
    ((⟨[s]⟩ : Bus).step op).2 = ⟨[s.react 0 op]⟩ := by
  have hget := (step_at (b := ⟨[s]⟩) (i := 0) rfl op).1
  have hlen : ((⟨[s]⟩ : Bus).step op).2.subscribers.length = 1 := by
    cases op with
    | subscribe name interest capacity => cases h
    | publish e => rfl
    | receive j =>
      simp only [step, receive]
      split <;> simp [modifyQueue]
    | leave j => simp [step, leave, modifyQueue]
  obtain ⟨s', hs'⟩ := List.length_eq_one_iff.1 hlen
  rw [hs'] at hget
  cases hget
  cases hb : ((⟨[s]⟩ : Bus).step op).2
  rw [hb] at hs'
  exact congrArg Bus.mk hs'

theorem own?_cases (s : Subscriber) (i : Nat) (op : Op) :
    (own? i op = none ∧ s.react i op = s ∧ s.taken? i op = none) ∨
    ∃ op', own? i op = some op' ∧ (own? 0 op').isSome = true ∧ s.react 0 op' = s.react i op ∧
      s.taken? 0 op' = s.taken? i op := by
  cases op with
  | subscribe name interest capacity => exact .inl ⟨rfl, rfl, rfl⟩
  | publish e => exact .inr ⟨.publish e, rfl, rfl, rfl, rfl⟩
  | receive j =>
    by_cases hj : j = i
    · exact .inr ⟨.receive 0, by simp [own?, hj], rfl, by simp [Subscriber.react, hj],
        by simp [Subscriber.taken?, hj]⟩
    · exact .inl ⟨by simp [own?, hj], by simp [Subscriber.react, hj],
        by simp [Subscriber.taken?, hj]⟩
  | leave j =>
    by_cases hj : j = i
    · exact .inr ⟨.leave 0, by simp [own?, hj], rfl, by simp [Subscriber.react, hj], rfl⟩
    · exact .inl ⟨by simp [own?, hj], by simp [Subscriber.react, hj], rfl⟩

/-- The other subscribers make no difference to a subscriber. -/
theorem after_own {b : Bus} {i : Nat} {s s' : Subscriber} (h : b.subscribers[i]? = some s)
    (ops : List Op) (hs' : (b.after ops).subscribers[i]? = some s') :
    (⟨[s]⟩ : Bus).after (own i ops) = ⟨[s']⟩ ∧
      receipts 0 (own i ops) ((⟨[s]⟩ : Bus).answers (own i ops)) =
        receipts i ops (b.answers ops) := by
  induction ops generalizing b s with
  | nil =>
    have hsame : s = s' := Option.some.inj (h.symm.trans hs')
    exact ⟨by rw [hsame]; rfl, rfl⟩
  | cons op ops ih =>
    obtain ⟨hget, -, hreceipt⟩ := step_at h op
    obtain ⟨hafter, hreceipts⟩ := ih hget hs'
    rw [answers, receipts_cons, hreceipt, ← hreceipts]
    obtain ⟨hown, hreact, htaken⟩ | ⟨op', hown, hop', hreact, htaken⟩ := own?_cases s i op
    · have hskip : own i (op :: ops) = own i ops := List.filterMap_cons_none hown
      rw [hreact] at hafter
      rw [hskip, htaken, hreact]
      exact ⟨hafter, rfl⟩
    · have hkeep : own i (op :: ops) = op' :: own i ops := List.filterMap_cons_some hown
      obtain ⟨-, -, hreceipt'⟩ := step_at (b := ⟨[s]⟩) (i := 0) rfl op'
      rw [hkeep, after_cons, answers, receipts_cons, step_alone s hop', hreact, hreceipt', htaken]
      exact ⟨hafter, rfl⟩

/-- A publication reports every interested subscriber once. -/
theorem publish_report (b : Bus) (e : Event) :
    (b.publish e).2.delivered + (b.publish e).2.dropped =
      b.subscribers.countP (·.interest.wants e.kind) := by
  have hone : ∀ s : Subscriber, (s.offer e).2.delivered + (s.offer e).2.dropped =
      if s.interest.wants e.kind then 1 else 0 := by
    intro s
    cases hw : s.interest.wants e.kind with
    | false => simp [Subscriber.offer_of_not_wants hw]
    | true =>
      by_cases hr : s.queue.HasRoom
      · obtain ⟨q, -, -, -, hoffer⟩ := Subscriber.offer_of_hasRoom hw hr
        simp [hoffer]
      · simp [Subscriber.offer_of_not_hasRoom hw hr]
  have hall : ∀ (ss : List Subscriber) (d : Delivery),
      (((ss.map (Subscriber.offer e)).foldl (fun d o => d + o.2) d).delivered +
        ((ss.map (Subscriber.offer e)).foldl (fun d o => d + o.2) d).dropped) =
      d.delivered + d.dropped + ss.countP (·.interest.wants e.kind) := by
    intro ss
    induction ss with
    | nil => intro d; simp
    | cons s ss ih =>
      intro d
      have hs := hone s
      have hadd : (d + (s.offer e).2).delivered + (d + (s.offer e).2).dropped =
          d.delivered + d.dropped + ((s.offer e).2.delivered + (s.offer e).2.dropped) := by
        change d.delivered + (s.offer e).2.delivered + (d.dropped + (s.offer e).2.dropped) = _
        omega
      rw [List.map_cons, List.foldl_cons, ih, hadd, hs, List.countP_cons]
      omega
  simpa [publish] using hall b.subscribers ⟨0, 0⟩

theorem length_step (b : Bus) (op : Op) :
    (b.step op).2.subscribers.length =
      b.subscribers.length + if (b.step op).1.isSubscribed then 1 else 0 := by
  cases op with
  | subscribe name interest capacity =>
    cases hb : b.subscribe name interest capacity with
    | error cause => simp [step, hb, Answer.isSubscribed]
    | ok b' =>
      obtain ⟨-, rfl⟩ := subscribe_eq_ok hb
      simp [step, hb, Answer.isSubscribed]
  | publish e => simp [step, publish, Answer.isSubscribed]
  | receive j =>
    simp only [step, receive, Answer.isSubscribed]
    split <;> simp [modifyQueue]
  | leave j => simp [step, leave, modifyQueue, Answer.isSubscribed]

theorem length_after (b : Bus) (ops : List Op) :
    (b.after ops).subscribers.length =
      b.subscribers.length + (b.answers ops).countP Answer.isSubscribed := by
  induction ops generalizing b with
  | nil => rfl
  | cons op ops ih =>
    rw [after_cons, ih, length_step, answers, List.countP_cons]
    omega

/-- Every run of a bus. A registered subscriber that has not left has received, together with what
waits in its queue, exactly the wanted events for which there was room, and its counters account
for every wanted event. Its state and receipts are those of a bus where it is alone. -/
theorem run_delivers (ops : List Op) :
    (empty.after ops).subscribers.length = (empty.answers ops).countP Answer.isSubscribed ∧
    (∀ before name interest capacity since start,
      ops = before ++ .subscribe name interest capacity :: since →
      (empty.after before).subscribe name interest capacity = .ok start →
      let i := (empty.after before).subscribers.length
      let offers := start.offers i since
      let received := receipts i since (start.answers since)
      let alone := .subscribe name interest capacity :: own i since
      ∃ s, (empty.after ops).subscribers[i]? = some s ∧
        s.name = name ∧ s.interest = interest ∧ s.queue.capacity = capacity ∧
        (s.queue.isOpen = true ↔ .leave i ∉ since) ∧
        offers.map (·.1) = wanted interest since ∧
        (s.queue.isOpen = true → received ++ s.queue.items = accepted offers) ∧
        s.queue.items.length ≤ capacity ∧
        s.delivered = (accepted offers).length ∧
        s.dropped = offers.countP (!·.2) ∧
        s.delivered + s.dropped = (wanted interest since).length ∧
        empty.after alone = ⟨[s]⟩ ∧ receipts 0 alone (empty.answers alone) = received) ∧
    ∀ before e since, ops = before ++ .publish e :: since →
      ∃ d, (empty.answers ops)[before.length]? = some (.published d) ∧
        d.delivered + d.dropped =
          (empty.after before).subscribers.countP (·.interest.wants e.kind) := by
  refine ⟨?_, ?_, ?_⟩
  · simpa [empty] using length_after empty ops
  · rintro before name interest capacity since start rfl hstart i offers received alone
    obtain ⟨hcapacity, rfl⟩ := subscribe_eq_ok hstart
    have hfirst : (⟨(empty.after before).subscribers ++
        [⟨name, interest, .empty capacity, 0, 0⟩]⟩ : Bus).subscribers[i]? =
          some ⟨name, interest, .empty capacity, 0, 0⟩ := by simp [i]
    obtain ⟨s, hs⟩ := exists_served hfirst since
    have hafter : empty.after (before ++ .subscribe name interest capacity :: since) =
        (⟨(empty.after before).subscribers ++
          [⟨name, interest, .empty capacity, 0, 0⟩]⟩ : Bus).after since := by
      rw [after_append, after_cons]
      simp only [step, hstart]
    have hfirst' : empty.step (.subscribe name interest capacity) =
        (.subscribed, ⟨[⟨name, interest, .empty capacity, 0, 0⟩]⟩) := by
      simp [step, subscribe, hcapacity, empty]
    have hcount := List.length_eq_countP_add_countP (l := offers) (p := fun o => o.2)
    have hdelivered : s.delivered = offers.countP (·.2) := hs.delivered.trans (Nat.zero_add _)
    have hdropped : s.dropped = offers.countP (!·.2) := hs.dropped.trans (Nat.zero_add _)
    obtain ⟨halone, hreceipts⟩ := after_own hfirst since hs.get
    refine ⟨s, by rw [hafter, hs.get], hs.name, hs.interest, hs.capacity, ?_, hs.offered,
      hs.items, ?_, ?_, hdropped, ?_, ?_, ?_⟩
    · rw [hs.isOpen]
      exact and_iff_right rfl
    · have hfits := s.queue.fits
      rwa [hs.capacity] at hfits
    · rw [hdelivered, accepted, List.length_map, List.countP_eq_length_filter]
    · rw [← hs.offered, List.length_map, hcount, hdelivered, hdropped]
      congr 1
      exact List.countP_congr fun o _ => by simp
    · rw [after_cons, hfirst']
      exact halone
    · rw [answers, receipts_cons, hfirst']
      exact hreceipts
  · rintro before e since rfl
    refine ⟨((empty.after before).publish e).2, ?_, publish_report _ e⟩
    rw [answers_append, List.getElem?_append_right (Nat.le_of_eq (length_answers ..)),
      length_answers, Nat.sub_self]
    rfl

/-- The other subscriber has a queue of one place, takes nothing and goes away in the end. -/
def crowded : List Op :=
  let event (kind : EventKind) : Event := .bare kind ⟨1, "s"⟩ ⟨0, 0⟩
  [.subscribe "slow" .any 1, .subscribe "chat" (.kinds [.say]) 2, .publish (event .say),
    .publish (event .kill), .publish (event .say), .receive 1, .leave 0, .publish (event .say),
    .publish (event .say)]

theorem run_delivers_crowded :
    ∃ s, (empty.after crowded).subscribers[1]? = some s ∧ s.name = "chat" ∧
      s.queue.isOpen = true ∧ s.queue.items.length ≤ 2 ∧ s.delivered + s.dropped = 4 ∧
      s.dropped = 1 := by
  obtain ⟨-, hserved, -⟩ := run_delivers crowded
  obtain ⟨s, hget, hname, -, -, hopen, -, -, hroom, -, hdropped, hsum, -⟩ :=
    hserved [.subscribe "slow" .any 1] "chat" (.kinds [.say]) 2 (crowded.drop 2)
      ⟨[⟨"slow", .any, .empty 1, 0, 0⟩, ⟨"chat", .kinds [.say], .empty 2, 0, 0⟩]⟩ rfl rfl
  have hstays : Op.leave 1 ∉ crowded.drop 2 := by simp [crowded]
  exact ⟨s, hget, hname, hopen.2 hstays, hroom, hsum, hdropped⟩

end Moderation.Bus
