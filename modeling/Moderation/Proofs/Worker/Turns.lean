import Moderation.Proofs.Schedule
import Moderation.Proofs.Worker.Run
import Moderation.Worker.Shift
/-!
Turns of the jobs in a pool. What the accounts of a run say of a pool that had no job at first: each
job is answered once, the queue keeps within its bound, and work that goes on comes to an end only
when every job in the queue has had its turn. A shift does nothing to its pool but such work. In a
pool that has lost all its workers no job has its turn.
-/
namespace Moderation.Worker.Pool
open Deed
open scoped List
variable {α : Type} {p : Pool α}

theorem take?_eq_worker {hand : Hand} {job : α} {p' : Pool α} (h : p.take? = some (hand, job, p')) :
    ∃ n, hand = .worker n := by
  unfold take? at h
  split at h <;> cases h
  exact ⟨_, rfl⟩

theorem answered_step (p : Pool α) (m : Move α) : answered (p.step m).1.toList = m.job?.toList := by
  cases m with
  | submit job =>
    obtain ⟨q, -, hstep, -⟩ | ⟨-, hstep, -⟩ | ⟨-, hstep, -⟩ := p.step_submit_cases job <;>
      rw [hstep] <;> rfl
  | submitOrSpawn job =>
    obtain ⟨q, -, -, hstep⟩ | ⟨-, -, hstep⟩ | ⟨-, -, hstep⟩ := p.step_submit_cases job <;>
      rw [hstep] <;> rfl
  | take =>
    simp only [step]
    split
    next ht =>
      obtain ⟨n, rfl⟩ := take?_eq_worker ht
      rfl
    next => rfl
  | goOn hand job => rfl
  | finish hand =>
    simp only [step]
    split <;> rfl
  | lose hand =>
    simp only [step]
    split <;> rfl

theorem answered_log (p : Pool α) (ms : List (Move α)) :
    answered (p.log ms) = ms.filterMap Move.job? := by
  induction ms generalizing p with
  | nil => rfl
  | cons m ms ih =>
    rw [log, answered_append, ih, answered_step, List.filterMap_cons]
    cases m.job? <;> rfl

theorem staff_start (workers capacity : Nat) : (start workers capacity : Pool α).working +
    (start workers capacity : Pool α).idle.length = workers := by
  have hworking : (start workers capacity : Pool α).working = 0 := rfl
  rw [hworking, Nat.zero_add]
  exact List.length_range

/-- The queue is open as long as a worker is left. -/
theorem Advances.isOpen_iff {workers capacity : Nat} {log : List (Deed α)}
    (h : Advances (start workers capacity) p log) :
    p.queue.isOpen = true ↔ lostWorkers log < workers := by
  have hstaff := h.staff.trans (staff_start workers capacity)
  rw [h.sound.staffed, isStaffed_iff]
  omega

theorem step_submit (hopen : p.queue.isOpen = true) (job : α) :
    if p.queue.items.length = p.queue.capacity then
      p.step (.submit job) = (some (.refused .full job), p) ∧
      p.step (.submitOrSpawn job) = (some (.begun (.alone p.spawned) job), { p with
        running := p.running ++ [(.alone p.spawned, job)], spawned := p.spawned + 1 })
    else ∃ q, q.items = p.queue.items ++ [job] ∧
      p.step (.submit job) = (some (.queued job), { p with queue := q }) ∧
      p.step (.submitOrSpawn job) = (some (.queued job), { p with queue := q }) := by
  have hfits := p.queue.fits
  obtain ⟨q, hq, hsteps⟩ | ⟨hq, hsteps⟩ | ⟨hq, -⟩ := p.step_submit_cases job
  · have hitems := (Queue.items_offer hq).1
    have hbound := q.fits
    rw [(Queue.items_offer hq).2.1, hitems, List.length_append, List.length_singleton] at hbound
    rw [if_neg (by omega)]
    exact ⟨q, hitems, hsteps⟩
  · have hroom : ¬ p.queue.HasRoom := fun hroom => by
      obtain ⟨q, hok⟩ := Queue.offer_of_hasRoom hroom job
      cases hok.symm.trans hq
    have hbound : ¬ p.queue.items.length < p.queue.capacity := fun hlt => hroom ⟨hopen, hlt⟩
    rw [if_pos (by omega)]
    exact hsteps
  · cases Queue.eq_full_of_offer hopen hq

/-- A job that waits is begun as soon as a worker waits as well. -/
theorem step_take {job : α} {rest : List α} (hitems : p.queue.items = job :: rest)
    (hidle : p.idle ≠ []) : ∃ n p', p.step .take = (some (.begun (.worker n) job), p') ∧
      p'.queue.items = rest := by
  obtain ⟨n, idle, hn⟩ := List.exists_cons_of_ne_nil hidle
  cases hq : p.queue.take? with
  | none => cases hitems.symm.trans (Queue.items_of_take?_eq_none hq)
  | some taken =>
    obtain ⟨first, q⟩ := taken
    obtain ⟨rfl, rfl⟩ := List.cons.inj (hitems.symm.trans (Queue.items_take? hq).1)
    exact ⟨n, _, by simp only [step, take?, hn, hq]; rfl, rfl⟩

/-- Work brings no new jobs, loses no worker and leaves less to do for each deed. -/
theorem work_step (h : p.Sound) {m : Move α} (hm : m.isWork = true) :
    enqueued (p.step m).1.toList = [] ∧ lostWorkers (p.step m).1.toList = 0 ∧
      (p.step m).1.toList.length + (p.step m).2.load ≤ p.load := by
  cases m with
  | take =>
    simp only [step]
    split
    next hand job p' ht =>
      obtain ⟨hrunning, hitems, -, -⟩ := take?_eq_some ht
      refine ⟨rfl, rfl, ?_⟩
      rw [load, load, hrunning, hitems]
      simp
      omega
    next => exact ⟨rfl, rfl, by simp⟩
  | goOn hand job => exact ⟨rfl, rfl, by simp [step, load, update]⟩
  | finish hand =>
    simp only [step]
    split
    next hsome =>
      obtain ⟨job, hj⟩ := Option.isSome_iff_exists.1 hsome
      have hsheds := sheds_finish h hj
      have hrunning := (perm_of_job? h hj).length_eq
      have hitems := congrArg List.length hsheds.items
      rw [List.length_cons, ← hsheds.running] at hrunning
      rw [List.length_append] at hitems
      refine ⟨rfl, rfl, ?_⟩
      rw [load, load]
      simp
      omega
    next => exact ⟨rfl, rfl, by simp⟩
  | submit job => cases hm
  | submitOrSpawn job => cases hm
  | lose hand => cases hm

theorem work_after (h : p.Sound) (hstop : p.isStopping = false) {ms : List (Move α)}
    (hms : ∀ m ∈ ms, m.isWork = true) :
    enqueued (p.log ms) = [] ∧ lostWorkers (p.log ms) = 0 ∧
      (p.log ms).length + (p.after ms).load ≤ p.load := by
  induction ms generalizing p with
  | nil => exact ⟨rfl, rfl, by simp [log, after]⟩
  | cons m ms ih =>
    obtain ⟨hm, hms⟩ := List.forall_mem_cons.1 hms
    have hstep := advances_step h hstop m
    obtain ⟨hnew, hlost, hload⟩ := work_step h hm
    obtain ⟨hnew', hlost', hload'⟩ := ih hstep.sound (hstep.isStopping.trans hstop) hms
    have hafter : p.after (m :: ms) = (p.step m).2.after ms := rfl
    rw [log, enqueued_append, lostWorkers_append, List.length_append, hnew, hnew', hlost, hlost',
      hafter]
    exact ⟨rfl, rfl, by omega⟩

theorem exists_work (hstaff : 0 < p.idle.length + p.working) :
    p.jobs = [] ∨ ∃ m : Move α, m.isWork = true ∧ (p.step m).1 ≠ none := by
  -- a hand with a job can end it; if there is none, a worker is free for the first job that waits
  cases hrunning : p.running with
  | cons r rs =>
    have hsome : (p.job? r.1).isSome = true := by
      rw [mem_hands_iff, hands, hrunning]
      exact List.mem_cons_self
    exact .inr ⟨.finish r.1, rfl, by simp [step, hsome]⟩
  | nil =>
    cases hitems : p.queue.items with
    | nil => exact .inl (by rw [jobs, hrunning, hitems]; rfl)
    | cons job rest =>
      have hidle : p.idle ≠ [] := by
        rintro hnil
        simp [hnil, working, hands, hrunning] at hstaff
      obtain ⟨n, p', hstep, -⟩ := step_take hitems hidle
      exact .inr ⟨.take, rfl, by simp [hstep]⟩

theorem job?_take {hand : Hand} {job : α} {p' : Pool α} (h : p.take? = some (hand, job, p')) :
    (p'.job? hand).isSome = true := by
  rw [mem_hands_iff, hands, (take?_eq_some h).1]
  simp

theorem next?_take {hand : Hand} {job : α} {p' : Pool α} (h : p.take? = some (hand, job, p')) :
    p.next? = some hand := by
  unfold take? at h
  split at h
  next hidle _ =>
    cases h
    rw [next?, hidle]
    rfl
  next => cases h

section Shift
variable {σ : Type} {labour : Labour α σ}

theorem exists_move_proceed {hand : Hand} (h : (p.job? hand).isSome = true) (woken : List Hand)
    (g : Progress α σ) :
    ∃ m, m.isWork = true ∧ (p.proceed hand woken g).state.1 = (p.step m).2 := by
  cases g with
  | done world => exact ⟨.finish hand, rfl, by simp [proceed, step, h]⟩
  | waits job world sleep => exact ⟨.goOn hand job, rfl, rfl⟩

theorem exists_moves_step? {clock : Time.Span} {hand : Hand} {world : σ}
    {next : Schedule.Step Hand (Pool α × σ)} (h : p.step? labour clock hand world = some next) :
    ∃ ms : List (Move α), (∀ m ∈ ms, m.isWork = true) ∧ next.state.1 = p.after ms := by
  unfold step? at h
  cases hj : p.job? hand with
  | some job =>
    rw [hj] at h
    obtain ⟨g, -, rfl⟩ := Option.map_eq_some_iff.1 h
    obtain ⟨m, hm, hstate⟩ := exists_move_proceed (by rw [hj]; rfl) [] g
    exact ⟨[m], by simpa using hm, hstate⟩
  | none =>
    rw [hj] at h
    simp only at h
    split at h
    next hturn =>
      obtain ⟨⟨hand', job, p'⟩, ht, h⟩ := Option.bind_eq_some_iff.1 h
      obtain rfl : hand = hand' := Option.some.inj (hturn.symm.trans (next?_take ht))
      have htake : p.step .take = (some (.begun hand job), p') := by simp only [step, ht]
      -- the worker has taken the job, and may have come to its end at once
      cases hg : labour clock job world with
      | none =>
        simp only [hg] at h
        cases h
        exact ⟨[.take], List.forall_mem_singleton.2 rfl, by simp [after, htake]⟩
      | some g =>
        simp only [hg] at h
        cases h
        obtain ⟨m, hm, hstate⟩ := exists_move_proceed (job?_take ht) p'.next?.toList g
        refine ⟨[.take, m], List.forall_mem_cons.2 ⟨rfl, by simpa using hm⟩, ?_⟩
        rw [hstate]
        simp [after, htake]
    next => cases h

/-- What a shift does to its pool is a run of work. -/
theorem exists_moves_settle (labour : Labour α σ) (s : Shift α σ) :
    ∃ ms : List (Move α), (∀ m ∈ ms, m.isWork = true) ∧ (s.settle labour).pool = s.pool.after ms := by
  have hkept : Schedule.IsKept (Shift.tasks labour) fun x y : Pool α × σ =>
      ∃ ms : List (Move α), (∀ m ∈ ms, m.isWork = true) ∧ y.1 = x.1.after ms :=
    { refl := fun x => ⟨[], List.forall_mem_nil _, rfl⟩
      trans := by
        rintro x y z ⟨ms, hms, hy⟩ ⟨ms', hms', hz⟩
        refine ⟨ms ++ ms', List.forall_mem_append.2 ⟨hms, hms'⟩, ?_⟩
        rw [hz, hy, after_append]
      step := exists_moves_step? }
  let fuel := 2 * (s.agenda.ready.length + s.pool.queue.items.length + s.pool.running.length) + 1
  exact hkept.run .zero fuel s.agenda (s.pool, s.world)

end Shift

/-- A pool that nobody stops, with a worker left. Every job that comes is put into the queue, set
going on its own or refused, once and in its turn. Workers begin the jobs of the queue in the order
in which they were put there, each once; no more of them run than there are workers, and no hand has
two jobs at a time. A job is refused exactly if the queue is at its bound, unless it must not be
lost: then a new hand begins it, and the rest of the pool is as it was. A job that waits is begun as
soon as a worker is free, and work goes on, with no more deeds than there is to do, until all jobs
are done. -/
theorem jobs_in_turn (workers capacity : Nat) (ms : List (Move α))
    (hstaff : lostWorkers ((start workers capacity).log ms) < workers) :
    let p := (start workers capacity).after ms
    let log := (start workers capacity).log ms
    answered log = ms.filterMap Move.job? ∧
    enqueued log = taken log ++ p.queue.items ∧
    p.queue.items.length ≤ max 1 capacity ∧
    p.working + p.idle.length + lostWorkers log = workers ∧
    (∀ h, begins h log = ends h log + if (p.job? h).isSome then 1 else 0) ∧
    spawnings log = List.range p.spawned ∧
    (∀ job, if p.queue.items.length = max 1 capacity then
        p.step (.submit job) = (some (.refused .full job), p) ∧
        p.step (.submitOrSpawn job) = (some (.begun (.alone p.spawned) job), { p with
          running := p.running ++ [(.alone p.spawned, job)], spawned := p.spawned + 1 })
      else ∃ q, q.items = p.queue.items ++ [job] ∧
        p.step (.submit job) = (some (.queued job), { p with queue := q }) ∧
        p.step (.submitOrSpawn job) = (some (.queued job), { p with queue := q })) ∧
    (∀ job rest, p.queue.items = job :: rest → p.working + lostWorkers log < workers →
      ∃ n p', p.step .take = (some (.begun (.worker n) job), p') ∧ p'.queue.items = rest) ∧
    (∀ ms', (∀ m ∈ ms', m.isWork = true) →
      (p.log ms').length ≤ p.load ∧
      ((p.after ms').jobs = [] ∧ taken (log ++ p.log ms') = enqueued log ∨
        ∃ m, m.isWork = true ∧ ((p.after ms').step m).1 ≠ none)) := by
  intro p log
  have hstart : (start workers capacity : Pool α).Sound := sound_start workers capacity
  have hrun : Advances (start workers capacity) p log := advances_after hstart rfl ms
  have hlost : lostWorkers log < workers := hstaff
  have hopen : p.queue.isOpen = true := hrun.isOpen_iff.2 hlost
  have hitems : (start workers capacity : Pool α).queue.items = [] := by cases workers <;> rfl
  have hcapacity : p.queue.capacity = max 1 capacity :=
    hrun.capacity.trans (by cases workers <;> rfl)
  have hworkers := hrun.staff.trans (staff_start workers capacity)
  refine ⟨answered_log _ ms, ?_, hcapacity ▸ p.queue.fits, hworkers, fun h => ?_,
    hrun.spawned.symm, fun job => hcapacity ▸ step_submit hopen job, fun job rest hjob hfree => ?_,
    fun ms' hms' => ?_⟩
  · have horder := hrun.order hopen
    rw [hitems, List.nil_append] at horder
    exact horder.symm
  · rw [← count_hands hrun.sound, ← hrun.hands h]
    rfl
  · refine step_take hjob fun hnil => ?_
    rw [hnil, List.length_nil] at hworkers
    omega
  -- work after the run is a run of its own
  have hwork := advances_after hrun.sound hrun.isStopping ms'
  obtain ⟨hnew, hnone, hload⟩ := work_after hrun.sound hrun.isStopping hms'
  have hleft := hwork.staff
  refine ⟨by omega, ?_⟩
  obtain hdone | hmore := exists_work (p := p.after ms') (by omega)
  · have hall := hrun.trans hwork
    have hopen' : (p.after ms').queue.isOpen = true := by
      rw [hall.isOpen_iff, lostWorkers_append, hnone]
      exact hlost
    have horder := hall.order hopen'
    rw [hitems, (List.append_eq_nil_iff.1 hdone).2, enqueued_append, hnew] at horder
    exact .inl ⟨hdone, by simpa using horder⟩
  · exact .inr hmore

/-- The first of two workers is lost with its job, and the only place of the queue is taken. -/
def halfStaffed : List (Move Nat) := [.submit 0, .take, .lose (.worker 0), .submit 1]

theorem jobs_in_turn_halfStaffed :
    lostWorkers ((start 2 1).log halfStaffed) < 2 ∧
    let p := (start 2 1).after halfStaffed
    (p.step (.submit 2)).1 = some (.refused .full 2) ∧
    (p.step (.submitOrSpawn 2)).1 = some (.begun (.alone 0) 2) ∧
    (∃ n p', p.step .take = (some (.begun (.worker n) 1), p') ∧ p'.queue.items = []) ∧
    ∀ ms', (∀ m ∈ ms', m.isWork = true) → (p.log ms').length ≤ 2 := by
  have hstaff : lostWorkers ((start 2 1).log halfStaffed) < 2 := by decide
  obtain ⟨-, -, -, -, -, -, hsubmit, htake, hwork⟩ := jobs_in_turn 2 1 halfStaffed hstaff
  obtain ⟨hrefused, hspawned⟩ := hsubmit 2
  exact ⟨hstaff, congrArg Prod.fst hrefused, congrArg Prod.fst hspawned,
    htake 1 [] rfl (by decide), fun ms' hms' => (hwork ms' hms').1⟩

structure Closed (p : Pool α) : Prop where
  isOpen : p.queue.isOpen = false
  items : p.queue.items = []

theorem Closed.lose (h : p.Closed) (hand : Hand) : (p.lose hand).Closed := by
  unfold Pool.lose settled
  split
  · exact ⟨h.isOpen, h.items⟩
  · exact ⟨rfl, rfl⟩

theorem Closed.finish (h : p.Closed) (hand : Hand) : (p.finish hand).Closed := by
  cases hand with
  | alone n => exact h.lose _
  | worker n =>
    simp only [Pool.finish]
    split
    · exact h.lose _
    · exact ⟨h.isOpen, h.items⟩

theorem Closed.step (h : p.Closed) (m : Move α) :
    (p.step m).2.Closed ∧ enqueued (p.step m).1.toList = [] ∧ taken (p.step m).1.toList = [] ∧
      spawnings (p.step m).1.toList = [] := by
  have hoffer (job : α) : p.queue.offer job = .error .closed := by simp [Queue.offer, h.isOpen]
  cases m with
  | submit job =>
    have hstep : p.step (.submit job) = (some (.refused .closed job), p) := by
      simp [Pool.step, submit, hoffer]
    rw [hstep]
    exact ⟨h, rfl, rfl, rfl⟩
  | submitOrSpawn job =>
    have hstep : p.step (.submitOrSpawn job) = (some (.refused .closed job), p) := by
      simp [Pool.step, submitOrSpawn, submit, hoffer]
    rw [hstep]
    exact ⟨h, rfl, rfl, rfl⟩
  | take =>
    simp only [Pool.step]
    split
    next ht => cases h.items.symm.trans (take?_eq_some ht).2.1
    next => exact ⟨h, rfl, rfl, rfl⟩
  | goOn hand job => exact ⟨⟨h.isOpen, h.items⟩, rfl, rfl, rfl⟩
  | finish hand =>
    simp only [Pool.step]
    split
    · exact ⟨h.finish hand, rfl, rfl, rfl⟩
    · exact ⟨h, rfl, rfl, rfl⟩
  | lose hand =>
    simp only [Pool.step]
    split
    · exact ⟨h.lose hand, rfl, rfl, rfl⟩
    · exact ⟨h, rfl, rfl, rfl⟩

theorem Closed.log (h : p.Closed) (ms : List (Move α)) :
    enqueued (p.log ms) = [] ∧ taken (p.log ms) = [] ∧ spawnings (p.log ms) = [] := by
  induction ms generalizing p with
  | nil => exact ⟨rfl, rfl, rfl⟩
  | cons m ms ih =>
    obtain ⟨hafter, henqueued, htaken, hspawned⟩ := h.step m
    obtain ⟨henqueued', htaken', hspawned'⟩ := ih hafter
    rw [Pool.log, enqueued_append, taken_append, spawnings_append, henqueued, henqueued', htaken,
      htaken', hspawned, hspawned']
    exact ⟨rfl, rfl, rfl⟩

/-- The only worker is lost with its job while another job waits. -/
def unstaffed : List (Move Nat) := [.submit 0, .take, .submit 1, .lose (.worker 0)]

/-- Nobody has stopped the pool. The job that waits is never begun, whatever comes, and one that must
not be lost is refused. -/
theorem unstaffed_loses_job :
    let p := (start 1 8).after unstaffed
    let log := (start 1 8).log unstaffed
    p.isStopping = false ∧ enqueued log = [0, 1] ∧
    (∀ ms, taken (log ++ p.log ms) = [0]) ∧
    (p.step (.submitOrSpawn 2)).1 = some (.refused .closed 2) := by
  intro p log
  have hclosed : p.Closed := ⟨rfl, rfl⟩
  refine ⟨rfl, rfl, fun ms => ?_, rfl⟩
  rw [taken_append, (hclosed.log ms).2.1]
  rfl

end Moderation.Worker.Pool
