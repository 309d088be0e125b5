import Mathlib.Data.List.Perm.Subperm
import Moderation.Proofs.Match.Passage
/-!
What becomes of the matches that are sealed. However workers, store and queues behave, each is saved
and announced once at most, and announced only after it has been saved. As long as nothing but the
scores of matches could hinder them, all are saved and announced in the end.
-/
namespace Moderation.Match
open Notice Number Time Worker
open scoped List

namespace Book

theorem Handles.subperm_createdIds {b b' : Book} {s : Step} {t : Transition}
    (h : Handles b s t b') : createdIds [t] <+~ [s.fresh] := by
  cases h with
  | opens hlive hmap => exact List.Subperm.refl _
  | _ => exact List.nil_subperm

/-- A match that is sealed was live before, or has been opened since. -/
theorem subperm_ids_sealedBy (b : Book) (steps : List Step) :
    (b.sealedBy steps).map (·.id) <+~ b.liveIds ++ steps.map (·.fresh) := by
  induction steps generalizing b with
  | nil => exact List.nil_subperm
  | cons s rest ih =>
    unfold sealedBy
    split
    next t b' hhandle =>
      have hs := handles_of_handle hhandle
      have hseals : (t.sealed?.toList ++ b'.sealedBy rest).map (·.id) =
          sealedIds [t] ++ (b'.sealedBy rest).map (·.id) := by
        rw [List.map_append]
        cases t <;> rfl
      have hlater : sealedIds [t] ++ (b'.sealedBy rest).map (·.id) <+~
          sealedIds [t] ++ (b'.liveIds ++ rest.map (·.fresh)) :=
        (List.subperm_append_left _).2 (ih b')
      have hnow : sealedIds [t] ++ (b'.liveIds ++ rest.map (·.fresh)) ~
          createdIds [t] ++ (b.liveIds ++ rest.map (·.fresh)) := by
        rw [← List.append_assoc, ← List.append_assoc]
        exact hs.ids.symm.append_right _
      have hfresh : createdIds [t] ++ (b.liveIds ++ rest.map (·.fresh)) <+~
          [s.fresh] ++ (b.liveIds ++ rest.map (·.fresh)) :=
        (List.subperm_append_right _).2 hs.subperm_createdIds
      have hids : [s.fresh] ++ (b.liveIds ++ rest.map (·.fresh)) ~
          b.liveIds ++ (s :: rest).map (·.fresh) := by
        simpa using List.perm_middle.symm
      rw [hseals]
      exact hlater.trans (hnow.subperm.trans (hfresh.trans hids.subperm))
    next => exact List.nil_subperm

end Book

def Sealed.Sums (m : Sealed) : Prop :=
  (∃ red, m.redScore = .ok red) ∧ ∃ blu, m.bluScore = .ok blu

theorem Sealed.Sums.exists_announcement {m : Sealed} (h : m.Sums) (externalUrl : String)
    (now : Instant) : ∃ n, announcement externalUrl now m = .ok n := by
  obtain ⟨⟨red, hred⟩, blu, hblu⟩ := h
  obtain ⟨e, he⟩ := Sealed.exists_embed hred hblu now now externalUrl
  exact ⟨⟨.matchLog, e⟩, by rw [announcement, he]; rfl⟩

def Act.IsSmooth : Act → Prop
  | sealed => True
  | refused cause => cause = .full
  | saved => True
  | announced _ => True
  | withheld cause => cause = .full
  | _ => False

theorem Act.isSmooth_ofPost {o : Outbox} (h : o.isOpen = true) (n : Notice) :
    (Act.ofPost o n).IsSmooth := by
  unfold ofPost
  split
  next => trivial
  next hcause => exact Queue.eq_full_of_offer h hcause

theorem isOpen_post {o : Outbox} (h : o.isOpen = true) (n : Notice) : (o.post n).isOpen = true := by
  unfold Outbox.post Outbox.enqueue
  cases ho : Queue.offer o n with
  | ok q => exact (Queue.items_offer ho).2.2
  | error cause => exact h

namespace Move

/-- A move that leaves the workers at work and a store that answers in time. -/
def Helps : Move → Prop
  | change s => Ban.Answers s.storeFault s.limit
  | stop => False
  | _ => True

def IsByHand : Move → Prop
  | take => True
  | call _ _ => True
  | answer _ _ => True
  | announce _ _ => True
  | carryOut _ _ => True
  | _ => False

theorem IsByHand.helps {move : Move} (h : move.IsByHand) : move.Helps := by
  cases move <;> trivial

end Move

namespace Registry
variable {r : Registry} {h : Hand} {m : Sealed}

structure Able (r : Registry) : Prop where
  isOpen : r.office.pool.queue.isOpen = true
  isStopping : r.office.pool.isStopping = false
  answers : Ban.Answers r.office.services.storeFault r.office.services.limit
  calls : ∀ h c, r.phases h = .calling c → c.isInTime = true
  outgoing : r.office.outgoing.isOpen = true

def onWay (r : Registry) : List Sealed := r.unsaved ++ r.unannounced

theorem mem_onWay (hr : r.Tidy) (hm : r.save? h = some m) : m ∈ r.onWay := by
  cases hphase : (r.phases h).isSaved with
  | false => exact List.mem_append_left _ (mem_unsaved hr hm hphase)
  | true => exact List.mem_append_right _ (mem_unannounced hr hm hphase)

theorem calls_update {phase : Phase} (ha : r.Able)
    (hphase : ∀ c, phase = .calling c → c.isInTime = true) :
    ∀ h' c, Function.update r.phases h phase h' = .calling c → c.isInTime = true := by
  intro h' c hc
  rw [Function.update_apply] at hc
  split at hc
  · exact hphase c hc
  · exact ha.calls h' c hc

/-- Nothing hinders the registry afterwards either, and nothing but a full queue has stopped a match
since. -/
structure GoesOn (r r' : Registry) : Prop where
  able : r'.Able
  log : ∀ d ∈ r'.log, d ∈ r.log ∨ d.act.IsSmooth

theorem goesOn_self (ha : r.Able) : r.GoesOn r := ⟨ha, fun _ => .inl⟩

/-- A hand that is done leaves the others at work. -/
theorem goesOn_release {o : Office} {j : Job} {ds : List Deed} (ha : r.Able) (hr : r.Tidy)
    (hj : r.office.pool.job? h = some j) (hpool : o.pool = r.office.pool.finish h)
    (hservices : Ban.Answers o.services.storeFault o.services.limit)
    (houtgoing : o.outgoing.isOpen = true) (hds : ∀ d ∈ ds, d.act.IsSmooth) :
    r.GoesOn (r.release h o ds) := by
  have hstaffed := hr.sound.staffed.symm.trans ha.isOpen
  obtain ⟨-, hstop, -, hqueue⟩ := Pool.isStaffed_finish hj hstaffed ha.isStopping
  rw [← hpool] at hstop hqueue
  have hopen : o.pool.queue.isOpen = true := hqueue ▸ ha.isOpen
  refine ⟨⟨hopen, hstop, hservices, calls_update ha (by simp), houtgoing⟩, fun d hd => ?_⟩
  have hlost : lostBy r.office.pool o.pool = [] := by simp [lostBy, Pool.shed, hopen]
  rw [release, hlost, List.append_nil] at hd
  exact (List.mem_append.1 hd).imp_right (hds d)

theorem goesOn_submit (ha : r.Able) (b : Book) (m : Sealed) :
    r.GoesOn { r with
      book := b, office := r.office.place (.saveMatch m), log := r.log ++ r.submitted m } := by
  cases hq : r.office.pool.queue.offer (.saveMatch m) with
  | ok q =>
    obtain ⟨hplace, hds⟩ := submit_of_ok hq
    rw [hplace, hds]
    refine ⟨⟨(Queue.items_offer hq).2.2, ha.isStopping, ha.answers, ha.calls, ha.outgoing⟩,
      fun d hd => (List.mem_append.1 hd).imp_right fun hd => ?_⟩
    cases List.mem_singleton.1 hd
    trivial
  | error cause =>
    obtain ⟨hplace, hds⟩ := submit_of_error hq
    rw [hplace, hds]
    refine ⟨⟨ha.isOpen, ha.isStopping, ha.answers, ha.calls, ha.outgoing⟩,
      fun d hd => (List.mem_append.1 hd).imp_right fun hd => ?_⟩
    cases Queue.eq_full_of_offer ha.isOpen hq
    obtain rfl | hd := List.mem_cons.1 hd
    · trivial
    · cases List.mem_singleton.1 hd
      rfl

theorem goesOn_handle (ha : r.Able) (s : Step) : r.GoesOn (r.step (.handle s)) := by
  obtain ⟨-, hstep⟩ | ⟨-, ⟨o, -, hstep⟩ | ⟨t, b, -, ⟨-, hstep⟩ | ⟨m, -, hstep⟩⟩⟩ :=
    r.step_handle_cases s
  · rw [hstep]
    exact goesOn_self ha
  · rw [hstep]
    exact ⟨⟨ha.isOpen, ha.isStopping, ha.answers, ha.calls, ha.outgoing⟩, fun _ => .inl⟩
  · rw [hstep]
    exact ⟨⟨ha.isOpen, ha.isStopping, ha.answers, ha.calls, ha.outgoing⟩, fun _ => .inl⟩
  · rw [hstep]
    exact goesOn_submit ha b m

theorem goesOn_take (ha : r.Able) : r.GoesOn (r.step .take) := by
  simp only [step]
  split
  next ht =>
    obtain ⟨-, -, hopen, hstop⟩ := Pool.take?_eq_some ht
    exact ⟨⟨hopen.trans ha.isOpen, hstop.trans ha.isStopping, ha.answers, ha.calls, ha.outgoing⟩,
      fun _ => .inl⟩
  next => exact goesOn_self ha

theorem goesOn_call (ha : r.Able) (h : Hand) (clock : Span) :
    r.GoesOn (r.step (.call h clock)) := by
  simp only [step]
  split
  next =>
    refine ⟨⟨ha.isOpen, ha.isStopping, ha.answers, calls_update ha ?_, ha.outgoing⟩, fun _ => .inl⟩
    rintro c ⟨⟩
    exact decide_eq_true ha.answers.1
  next => exact goesOn_self ha

theorem goesOn_answer (ha : r.Able) (h : Hand) (clock : Span) :
    r.GoesOn (r.step (.answer h clock)) := by
  simp only [step]
  split
  next m c hm hphase =>
    split
    · rw [Services.write_of_answers (ha.calls h c hphase) ha.answers m]
      refine ⟨⟨ha.isOpen, ha.isStopping, ha.answers, calls_update ha (by simp), ha.outgoing⟩,
        fun d hd => (List.mem_append.1 hd).imp_right fun hd => ?_⟩
      cases List.mem_singleton.1 hd
      trivial
    · exact goesOn_self ha
  next => exact goesOn_self ha

theorem goesOn_announce (hr : r.Tidy) (ha : r.Able) (hsums : ∀ m ∈ r.onWay, m.Sums) (h : Hand)
    (now : Instant) : r.GoesOn (r.step (.announce h now)) := by
  simp only [step]
  split
  next m hm hphase =>
    obtain ⟨n, hn⟩ := (hsums m (mem_onWay hr hm)).exists_announcement r.office.externalUrl now
    rw [hn]
    refine goesOn_release ha hr (job?_of_save? hm) rfl ha.answers (isOpen_post ha.outgoing n) ?_
    exact List.forall_mem_singleton.2 (Act.isSmooth_ofPost ha.outgoing n)
  next => exact goesOn_self ha

theorem goesOn_place (ha : r.Able) (j : Job) (hj : j.match? = none) :
    r.GoesOn (r.step (.place j hj)) := by
  simp only [step, Pool.place]
  obtain ⟨q, hq, hput⟩ | ⟨-, hput⟩ | ⟨-, hput⟩ := r.office.pool.put_cases j.isVital j
  · rw [hput]
    exact ⟨⟨(Queue.items_offer hq).2.2, ha.isStopping, ha.answers, ha.calls, ha.outgoing⟩,
      fun _ => .inl⟩
  · rw [hput]
    exact ⟨⟨ha.isOpen, ha.isStopping, ha.answers, ha.calls, ha.outgoing⟩, fun _ => .inl⟩
  · rw [hput]
    exact goesOn_self ha

theorem goesOn_carryOut (hr : r.Tidy) (ha : r.Able) (h : Hand) (now : Instant) :
    r.GoesOn (r.step (.carryOut h now)) := by
  simp only [step]
  split
  next j hj =>
    split
    · exact goesOn_self ha
    next hmatch =>
      have hnone : j.match? = none := by simpa using hmatch
      obtain ⟨stored, sent, -, hcarry⟩ := carryOut_of_match? hnone r.office now h
      rw [hcarry]
      exact goesOn_release ha hr hj rfl ha.answers ha.outgoing (List.forall_mem_nil _)
  next => exact goesOn_self ha

theorem goesOn_send (ha : r.Able) : r.GoesOn (r.step .send) := by
  simp only [step]
  split
  next n outgoing hq =>
    have hopen := (Queue.items_take? hq).2.2.trans ha.outgoing
    exact ⟨⟨ha.isOpen, ha.isStopping, ha.answers, ha.calls, hopen⟩, fun _ => .inl⟩
  next => exact goesOn_self ha

/-- Nothing but a full queue, or scores that do not add up, stops a match. -/
theorem goesOn_step (hr : r.Tidy) (ha : r.Able) {move : Move} (hmove : move.Helps)
    (hsums : ∀ m ∈ r.onWay, m.Sums) : r.GoesOn (r.step move) := by
  cases move with
  | handle s => exact goesOn_handle ha s
  | take => exact goesOn_take ha
  | call h clock => exact goesOn_call ha h clock
  | answer h clock => exact goesOn_answer ha h clock
  | announce h now => exact goesOn_announce hr ha hsums h now
  | place j hj => exact goesOn_place ha j hj
  | carryOut h now => exact goesOn_carryOut hr ha h now
  | post n hn =>
    exact ⟨⟨ha.isOpen, ha.isStopping, ha.answers, ha.calls, isOpen_post ha.outgoing n⟩,
      fun _ => .inl⟩
  | send => exact goesOn_send ha
  | change s =>
    exact ⟨⟨ha.isOpen, ha.isStopping, hmove, ha.calls, ha.outgoing⟩, fun _ => .inl⟩
  | stop => cases hmove

structure Ready (r : Registry) : Prop where
  tidy : r.Tidy
  able : r.Able
  sums : ∀ m ∈ r.onWay, m.Sums

/-- No match comes by a move of a hand. -/
theorem onWay_subset {r' : Registry} {ds : List Deed} (hs : r.Steps r' none ds) :
    r'.onWay ⊆ r.onWay := by
  have hsealed : marked .sealed ds = [] := by
    have hseals := hs.sealed []
    rw [Option.toList_none, List.append_nil, seals_nil, seals_nil, List.append_nil] at hseals
    exact hseals.symm
  have hunsaved := hs.unsaved
  rw [hsealed, List.append_nil] at hunsaved
  intro m hm
  obtain hm | hm := List.mem_append.1 hm
  · exact List.mem_append_left _ (hunsaved.mem_iff.2 (List.mem_append_right _ hm))
  · obtain hm | hm := List.mem_append.1 (hs.unannounced.mem_iff.2 (List.mem_append_right _ hm))
    · exact List.mem_append_right _ hm
    · refine List.mem_append_left _ (hunsaved.mem_iff.2 ?_)
      exact List.mem_append_left _ (List.mem_append_right _ hm)

theorem Ready.step (hr : r.Ready) {move : Move} (hmove : move.IsByHand) :
    (r.step move).Ready := by
  obtain ⟨ds, hs⟩ := steps_step hr.tidy move
  have hnone : move.step? = none := by cases move <;> first | rfl | cases hmove
  rw [hnone] at hs
  exact ⟨hs.tidy, (goesOn_step hr.tidy hr.able hmove.helps hr.sums).able,
    fun m hm => hr.sums m (onWay_subset hs hm)⟩

theorem Ready.run (hr : r.Ready) {moves : List Move} (hmoves : ∀ move ∈ moves, move.IsByHand) :
    (r.run moves).Ready := by
  induction moves using List.reverseRecOn with
  | nil => exact hr
  | append_singleton moves move ih =>
    rw [run_concat]
    exact (ih fun x hx => hmoves x (by simp [hx])).step (hmoves move (by simp))

/-- A hand can finish the match that it saves. -/
theorem Ready.exists_finish (hr : r.Ready) (hm : r.save? h = some m) (now : Instant) :
    ∃ moves, (∀ move ∈ moves, move.IsByHand) ∧
      (r.run moves).office.pool = r.office.pool.finish h := by
  have hannounce : ∀ r : Registry, r.Ready → r.save? h = some m → r.phases h = .saved →
      (r.step (.announce h now)).office.pool = r.office.pool.finish h := by
    intro r hr hm hphase
    obtain ⟨n, hn⟩ := (hr.sums m (mem_onWay hr.tidy hm)).exists_announcement
      r.office.externalUrl now
    rw [step_announce hm hphase, hn]
    rfl
  have hanswer : ∀ (r : Registry) c, r.Ready → r.save? h = some m → r.phases h = .calling c →
      (r.run [.answer h c.due, .announce h now]).office.pool = r.office.pool.finish h := by
    intro r c hr hm hphase
    have hover : c.isOver c.due = true := decide_eq_true (Int.le_refl c.due.nanos)
    have hstep : r.step (.answer h c.due) = _ := step_answer hm hphase hover
    rw [Services.write_of_answers (hr.able.calls h c hphase) hr.able.answers] at hstep
    have hbyHand : (Move.answer h c.due).IsByHand := trivial
    have hr' := hr.step hbyHand
    rw [hstep] at hr'
    rw [run_cons, hstep]
    exact hannounce _ hr' hm (Function.update_self ..)
  cases hphase : r.phases h with
  | saved => exact ⟨[.announce h now], by simp [Move.IsByHand], hannounce r hr hm hphase⟩
  | calling c =>
    exact ⟨[.answer h c.due, .announce h now], by simp [Move.IsByHand],
      hanswer r c hr hm hphase⟩
  | untouched =>
    set c := r.office.services.archive.begin .zero
    refine ⟨[.call h .zero, .answer h c.due, .announce h now], by simp [Move.IsByHand], ?_⟩
    have hbyHand : (Move.call h .zero).IsByHand := trivial
    have hr' := hr.step hbyHand
    have hstep := step_call hm hphase .zero
    rw [hstep] at hr'
    rw [run_cons, hstep]
    exact hanswer _ c hr' hm (Function.update_self ..)

/-- The hands can finish all jobs. -/
theorem Ready.exists_quiet (hr : r.Ready) (now : Instant) :
    ∃ moves, (∀ move ∈ moves, move.IsByHand) ∧ (r.run moves).office.pool.jobs = [] := by
  induction hload : r.office.pool.load using Nat.strongRecOn generalizing r with
  | ind load ih =>
  have hstaffed := hr.tidy.sound.staffed.symm.trans hr.able.isOpen
  have goOn : ∀ moves, (∀ move ∈ moves, move.IsByHand) →
      r.office.pool.Lighter (r.run moves).office.pool →
      ∃ moves, (∀ move ∈ moves, move.IsByHand) ∧ (r.run moves).office.pool.jobs = [] := by
    intro moves hmoves hlighter
    obtain ⟨later, hlater, hquiet⟩ := ih _ (hload ▸ hlighter.load) (hr.run hmoves) rfl
    refine ⟨moves ++ later, List.forall_mem_append.2 ⟨hmoves, hlater⟩, ?_⟩
    rwa [run_append]
  cases hrunning : r.office.pool.running with
  | cons x rest =>
    obtain ⟨h, j⟩ := x
    have hj : r.office.pool.job? h = some j := by simp [Pool.job?, hrunning]
    have hlighter := Pool.lighter_finish hr.tidy.sound hj hstaffed hr.able.isStopping
    cases hmatch : j.match? with
    | none =>
      refine goOn [.carryOut h now] (by simp [Move.IsByHand]) ?_
      obtain ⟨stored, sent, -, hcarry⟩ := carryOut_of_match? hmatch r.office now h
      have hpool : (r.run [.carryOut h now]).office.pool = r.office.pool.finish h := by
        simp [Registry.step, hj, hmatch, hcarry]
      rwa [hpool]
    | some m =>
      have hm : r.save? h = some m := by simp [save?, hj, hmatch]
      obtain ⟨moves, hmoves, hpool⟩ := hr.exists_finish hm now
      refine goOn moves hmoves ?_
      rwa [hpool]
  | nil =>
    by_cases hitems : r.office.pool.queue.items = []
    · exact ⟨[], List.forall_mem_nil _, by simp [Pool.jobs, hrunning, hitems]⟩
    · obtain ⟨h, j, p', ht, hlighter⟩ := Pool.lighter_take hr.tidy.sound hstaffed
        hr.able.isStopping hrunning hitems
      refine goOn [.take] (by simp [Move.IsByHand]) ?_
      have hpool : (r.run [.take]).office.pool = p' := by simp [Registry.step, ht]
      rwa [hpool]

theorem able_start {services : Services} {workers : Nat} (room mail : Nat) (externalUrl : String)
    (hanswers : Ban.Answers services.storeFault services.limit) (hworkers : 0 < workers) :
    (start services workers room mail externalUrl).Able where
  isOpen := by
    obtain ⟨n, rfl⟩ := Nat.exists_eq_succ_of_ne_zero (Nat.ne_of_gt hworkers)
    rfl
  isStopping := rfl
  answers := hanswers
  calls := nofun
  outgoing := rfl

theorem Keeps.onWay_subset {services : Services} {externalUrl : String} {steps : List Step}
    (h : r.Keeps services externalUrl steps) : r.onWay ⊆ Book.empty.sealedBy steps := by
  rw [h.sealedBy]
  intro m hm
  refine h.unsaved.mem_iff.2 ?_
  obtain hm | hm := List.mem_append.1 hm
  · exact List.mem_append_right _ hm
  · have hsaved := h.unannounced.mem_iff.2 (List.mem_append_right _ hm)
    exact List.mem_append_left _ (List.mem_append_right _ hsaved)

/-- While the store answers and the workers stay, only full queues stop matches whose scores add
up. -/
theorem ready_run {services : Services} {workers : Nat} (room mail : Nat) (externalUrl : String)
    {moves : List Move} (hanswers : Ban.Answers services.storeFault services.limit)
    (hworkers : 0 < workers) (hmoves : ∀ move ∈ moves, move.Helps)
    (hsums : ∀ m ∈ Book.empty.sealedBy (moves.filterMap Move.step?), m.Sums) :
    let r := (start services workers room mail externalUrl).run moves
    r.Ready ∧ ∀ d ∈ r.log, d.act.IsSmooth := by
  intro r
  have hkeeps := keeps_run services workers room mail externalUrl moves
  suffices h : r.Able ∧ ∀ d ∈ r.log, d.act.IsSmooth from
    ⟨⟨hkeeps.tidy, h.1, fun m hm => hsums m (hkeeps.onWay_subset hm)⟩, h.2⟩
  clear hkeeps
  subst r
  induction moves using List.reverseRecOn with
  | nil => exact ⟨able_start room mail externalUrl hanswers hworkers, List.forall_mem_nil _⟩
  | append_singleton moves move ih =>
    have hkeeps := keeps_run services workers room mail externalUrl moves
    rw [filterMap_concat, hkeeps.sealed, ← hkeeps.sealedBy] at hsums
    have hbefore : ∀ m ∈ Book.empty.sealedBy (moves.filterMap Move.step?), m.Sums :=
      fun m hm => hsums m (List.mem_append_left _ hm)
    obtain ⟨hable, hsmooth⟩ := ih (fun x hx => hmoves x (by simp [hx])) hbefore
    have hstep := goesOn_step hkeeps.tidy hable (hmoves move (by simp))
      fun m hm => hbefore m (hkeeps.onWay_subset hm)
    rw [run_concat]
    exact ⟨hstep.able, fun d hd => (hstep.log d hd).elim (hsmooth d) fun hnew => hnew⟩

theorem marked_eq_nil {k : Mark} {ds : List Deed} (h : ∀ d ∈ ds, d.act.mark ≠ k) :
    marked k ds = [] := by
  rw [marked, List.filter_eq_nil_iff.2 fun d hd => by simpa using h d hd, List.map_nil]

theorem mark_of_isSmooth {a : Act} (h : a.IsSmooth) (hrefused : a ≠ .refused .full)
    (hwithheld : a ≠ .withheld .full) : a.mark ≠ .dropped ∧ a.mark ≠ .silenced := by
  cases a with
  | refused cause =>
    cases h
    exact absurd rfl hrefused
  | withheld cause =>
    cases h
    exact absurd rfl hwithheld
  | lost => cases h
  | failed cause => cases h
  | collapsed => cases h
  | _ => exact ⟨nofun, nofun⟩

theorem onWay_of_quiet (h : r.office.pool.jobs = []) : r.unsaved = [] ∧ r.unannounced = [] := by
  obtain ⟨hrunning, hitems⟩ := List.append_eq_nil_iff.1 h
  rw [List.map_eq_nil_iff] at hrunning
  simp [unsaved, unannounced, hrunning, hitems, under]

/-- A summarizer handles events while workers save and announce its matches, other tasks use the
same workers, store and outbox, and all of them are as slow, full or faulty as they like. A match is
saved and announced once at most, in this order and as it was sealed, and one whose job is refused or
lost, or whose call fails or comes too late, is neither; nothing else is saved or announced. If the
store answers, workers are there and stay, and scores add up, all jobs can be finished, and then
every match has been saved and announced unless a queue was full. -/
theorem run_announces (services : Services) (workers room mail : Nat) (externalUrl : String)
    (moves : List Move) :
    let first := start services workers room mail externalUrl
    let steps := moves.filterMap Move.step?
    let r := first.run moves
    marked .sealed r.log = Book.empty.sealedBy steps ∧
    r.finished = services.stored.finished ++ marked .saved r.log ∧
    r.announcements = r.log.filterMap (·.act.notice?) ∧
    (∀ d ∈ r.log, ∀ n, d.act = .announced n →
      ∃ now, announcement externalUrl now d.result = .ok n) ∧
    Ordered r.log ∧
    marked .sealed r.log ~ marked .dropped r.log ++ marked .saved r.log ++ r.unsaved ∧
    marked .saved r.log ~ marked .announced r.log ++ marked .silenced r.log ++ r.unannounced ∧
    (∀ before s after m b, moves = before ++ .handle s :: after →
      (first.run before).isGone = false →
      (first.run before).book.handle s.fresh s.now s.event = .ok (.sealed m, b) →
      ¬ (first.run before).office.pool.queue.HasRoom → ∃ cause, ⟨.refused cause, m⟩ ∈ r.log) ∧
    (∀ before h clock after m c, moves = before ++ .answer h clock :: after →
      (first.run before).save? h = some m → (first.run before).phases h = .calling c →
      c.isOver clock = true → ⟨.ofCall (first.run before).office.services c, m⟩ ∈ r.log) ∧
    ((steps.map (·.fresh)).Nodup →
      ((marked .saved r.log).map (·.id)).Nodup ∧ ((marked .announced r.log).map (·.id)).Nodup ∧
      ∀ m ∈ marked .dropped r.log, m.id ∉ (marked .saved r.log).map (·.id) ∧
        m.id ∉ (marked .announced r.log).map (·.id)) ∧
    (Ban.Answers services.storeFault services.limit → 0 < workers → (∀ move ∈ moves, move.Helps) →
      (∀ m ∈ marked .sealed r.log, m.Sums) →
      (∃ more, (∀ move ∈ more, move.IsByHand) ∧ (r.run more).office.pool.jobs = []) ∧
      ((∀ d ∈ r.log, d.act ≠ .refused .full ∧ d.act ≠ .withheld .full) →
        r.office.pool.jobs = [] →
        marked .saved r.log ~ marked .sealed r.log ∧
          marked .announced r.log ~ marked .sealed r.log)) := by
  intro first steps r
  have hkeeps : r.Keeps services externalUrl steps :=
    keeps_run services workers room mail externalUrl moves
  have hlast : ∀ before move after d, moves = before ++ move :: after →
      d ∈ ((first.run before).step move).log → d ∈ r.log := by
    rintro before move after d rfl hd
    have htidy := (keeps_run services workers room mail externalUrl before).tidy
    obtain ⟨ds, hs⟩ := steps_step htidy move
    change d ∈ (first.run (before ++ move :: after)).log
    rw [run_append, run_cons]
    exact mem_log_run hs.tidy after hd
  refine ⟨hkeeps.sealedBy.symm, hkeeps.finished, hkeeps.announcements, hkeeps.notices,
    hkeeps.ordered, hkeeps.unsaved, hkeeps.unannounced, ?_, ?_, fun hfresh => ?_,
    fun hanswers hworkers hmoves hsums => ?_⟩
  · intro before s after m b heq hgone hb hroom
    obtain ⟨cause, hd⟩ := mem_log_step_refused hgone hb hroom
    exact ⟨cause, hlast before _ after _ heq hd⟩
  · intro before h clock after m c heq hm hphase hover
    exact hlast before _ after _ heq (mem_log_step_answer hm hphase hover)
  · have hids : ((marked .sealed r.log).map (·.id)).Nodup := by
      rw [← hkeeps.sealedBy]
      obtain ⟨ids, hperm, hsublist⟩ := Book.empty.subperm_ids_sealedBy steps
      exact hperm.nodup_iff.1 (List.Nodup.sublist hsublist hfresh)
    have hsaved := (hkeeps.unsaved.map (·.id)).nodup_iff.1 hids
    rw [List.map_append, List.map_append] at hsaved
    obtain ⟨-, hsavedIds, hapart⟩ := List.nodup_append'.1 (List.nodup_append'.1 hsaved).1
    have hannounced := (hkeeps.unannounced.map (·.id)).nodup_iff.1 hsavedIds
    rw [List.map_append, List.map_append] at hannounced
    have hsubset : (marked .announced r.log).map (·.id) ⊆ (marked .saved r.log).map (·.id) := by
      intro id hid
      refine (hkeeps.unannounced.map (·.id)).mem_iff.2 ?_
      rw [List.map_append, List.map_append]
      exact List.mem_append_left _ (List.mem_append_left _ hid)
    refine ⟨hsavedIds, (List.nodup_append'.1 (List.nodup_append'.1 hannounced).1).1, fun m hm => ?_⟩
    have hnot : m.id ∉ (marked .saved r.log).map (·.id) := hapart (List.mem_map_of_mem hm)
    exact ⟨hnot, fun hid => hnot (hsubset hid)⟩
  · rw [← hkeeps.sealedBy] at hsums
    obtain ⟨hready, hsmooth⟩ := ready_run room mail externalUrl hanswers hworkers hmoves hsums
    refine ⟨hready.exists_quiet ⟨0⟩, fun hroom hquiet => ?_⟩
    have hmarks := fun d hd => mark_of_isSmooth (hsmooth d hd) (hroom d hd).1 (hroom d hd).2
    obtain ⟨hunsaved, hunannounced⟩ := onWay_of_quiet hquiet
    have hsaved := hkeeps.unsaved
    have hannounced := hkeeps.unannounced
    rw [marked_eq_nil fun d hd => (hmarks d hd).1, hunsaved, List.nil_append,
      List.append_nil] at hsaved
    rw [marked_eq_nil fun d hd => (hmarks d hd).2, hunannounced, List.append_nil,
      List.append_nil] at hannounced
    exact ⟨hsaved.symm, hannounced.symm.trans hsaved.symm⟩

/-- A server loads a map, plays rounds with these points for red, and ends its game; then a worker
saves and announces the match. -/
def game (points : List Int) : List Move :=
  let on (second : Nat) (kind : EventKind) (payload : Payload) : Move :=
    .handle ⟨⟨second⟩, ⟨second⟩, ⟨kind, ⟨1, "s"⟩, none, ⟨second, 0⟩, payload, .empty⟩⟩
  [on 0 .mapLoad (.mapLoad "ctf_2fort")] ++
    points.zipIdx.map (fun (n, i) => on (i + 1) .roundEnd (.roundEnd (some .red) ⟨n, 0⟩)) ++
    [on (points.length + 1) .gameOver (.gameOver "limit"), .take, .call (.worker 0) .zero,
      .answer (.worker 0) .zero, .announce (.worker 0) ⟨60⟩]

theorem helps_game (points : List Int) : ∀ move ∈ game points, move.Helps := by
  intro move hmove
  simp only [game, List.mem_append, List.mem_cons, List.mem_map, List.not_mem_nil, or_false]
    at hmove
  obtain (rfl | ⟨x, -, rfl⟩) | rfl | rfl | rfl | rfl | rfl := hmove <;> trivial

theorem run_announces_game :
    let r := (start (.ofStore .empty .zero) 1 1 1 "").run (game [1, 2])
    (marked .sealed r.log).length = 1 ∧ ((marked .saved r.log).map (·.id)).Nodup ∧
      marked .saved r.log ~ marked .sealed r.log ∧
      marked .announced r.log ~ marked .sealed r.log := by
  intro r
  obtain ⟨-, -, -, -, -, -, -, -, -, hids, hdone⟩ :=
    run_announces (.ofStore .empty .zero) 1 1 1 "" (game [1, 2])
  have hsums : ∀ m ∈ marked .sealed r.log, m.redScore = .ok 3 ∧ m.bluScore = .ok 0 := by
    decide +kernel
  have hquiet : r.office.pool.jobs = [] := List.length_eq_zero_iff.1 (by decide +kernel)
  obtain ⟨-, hall⟩ := hdone (by decide) (by decide) (helps_game _)
    fun m hm => ⟨⟨3, (hsums m hm).1⟩, 0, (hsums m hm).2⟩
  have hroom : ∀ d ∈ r.log, d.act ≠ .refused .full ∧ d.act ≠ .withheld .full := by decide +kernel
  exact ⟨by decide +kernel, (hids (by decide)).1, hall hroom hquiet⟩

/-- The points of a match need not add up. It is saved then, but not announced, though the store
answers, all jobs are over and no queue was full. -/
theorem run_fullScores :
    let services : Services := .ofStore .empty .zero
    let moves := game [2147483647, 2147483647]
    let r := (start services 1 1 1 "").run moves
    Ban.Answers services.storeFault services.limit ∧ (∀ move ∈ moves, move.Helps) ∧
      r.office.pool.jobs = [] ∧ r.log.map (·.act) = [.sealed, .saved, .collapsed] ∧
      ¬ marked .announced r.log ~ marked .sealed r.log := by
  refine ⟨by decide, helps_game _, List.length_eq_zero_iff.1 (by decide +kernel),
    by decide +kernel, fun hperm => ?_⟩
  exact absurd hperm.length_eq (by decide +kernel)

end Registry
end Moderation.Match
