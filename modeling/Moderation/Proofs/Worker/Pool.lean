import Mathlib.Data.List.Nodup
import Moderation.Worker.Pool
/-!
What the steps of a pool do to the jobs in it. As long as the queue is open no job is lost or
doubled, and the queue is open as long as there are workers.
-/
namespace Moderation.Worker.Pool
open scoped List
variable {α : Type} {p : Pool α}

def jobs (p : Pool α) : List α := p.running.map (·.2) ++ p.queue.items

/-- Every hand has one job, a waiting worker has none, and the queue is open for workers only. -/
structure Sound (p : Pool α) : Prop where
  hands : (p.running.map (·.1)).Nodup
  alone : ∀ n, .alone n ∈ p.running.map (·.1) → n < p.spawned
  idle : p.idle.Nodup
  apart : ∀ n ∈ p.idle, .worker n ∉ p.running.map (·.1)
  staffed : p.queue.isOpen = p.isStaffed

/-- Jobs come and go from one pool to another; as long as the queue is open none is lost. -/
structure Goes (p p' : Pool α) (come gone : List α) : Prop where
  sound : p'.Sound
  isOpen : p'.queue.isOpen = true → p.queue.isOpen = true
  jobs : p'.queue.isOpen = true → p.jobs ++ come ~ gone ++ p'.jobs

theorem Goes.refl (h : p.Sound) : Goes p p [] [] where
  sound := h
  isOpen := id
  jobs _ := by simp

theorem Goes.trans {p' p'' : Pool α} {come come' gone gone' : List α} (h : Goes p p' come gone)
    (h' : Goes p' p'' come' gone') : Goes p p'' (come ++ come') (gone ++ gone') where
  sound := h'.sound
  isOpen := h.isOpen ∘ h'.isOpen
  jobs ho := by
    have hfirst := (h.jobs (h'.isOpen ho)).append_right come'
    rw [List.append_assoc, List.append_assoc] at hfirst
    rw [List.append_assoc]
    exact hfirst.trans ((h'.jobs ho).append_left gone)

theorem sound_start (workers capacity : Nat) : (start workers capacity : Pool α).Sound where
  hands := List.nodup_nil
  alone _ h := by cases h
  idle := List.nodup_range
  apart _ _ := by simp [start]
  staffed := by
    cases workers with
    | zero => rfl
    | succ n => simp [start, isStaffed, Queue.ofCapacity, Queue.empty]

theorem jobs_start (workers capacity : Nat) : (start workers capacity : Pool α).jobs = [] := by
  cases workers <;> rfl

/-- A pool takes a job into its queue, sets a vital one going if the queue is full, or refuses. -/
theorem put_cases (p : Pool α) (isVital : Bool) (job : α) :
    (∃ q, p.queue.offer job = .ok q ∧ p.put isVital job = { p with queue := q }) ∨
    (isVital = true ∧ p.put isVital job = { p with
      running := p.running ++ [(.alone p.spawned, job)], spawned := p.spawned + 1 }) ∨
    ((isVital = true → p.queue.isOpen = false) ∧ p.put isVital job = p) := by
  cases ho : p.queue.offer job with
  | ok q =>
    refine .inl ⟨q, rfl, ?_⟩
    cases isVital <;> simp [put, submitOrSpawn, submit, ho]
  | error r =>
    cases isVital with
    | false => exact .inr (.inr ⟨nofun, by simp [put, submit, ho]⟩)
    | true =>
      cases r with
      | full => exact .inr (.inl ⟨rfl, by simp [put, submitOrSpawn, submit, ho]⟩)
      | closed =>
        refine .inr (.inr ⟨fun _ => ?_, by simp [put, submitOrSpawn, submit, ho]⟩)
        unfold Queue.offer at ho
        split at ho
        next h => simpa using h
        next => split at ho <;> cases ho

theorem goes_enqueue (h : p.Sound) {job : α} {q : Queue α} (hq : p.queue.offer job = .ok q) :
    Goes p { p with queue := q } [job] [] := by
  obtain ⟨hitems, -, hopen⟩ := Queue.items_offer hq
  have hbefore : p.queue.isOpen = true := by
    unfold Queue.offer at hq
    split at hq
    · cases hq
    next hclosed => simpa using hclosed
  have hstaffed := h.staffed
  refine ⟨⟨h.hands, h.alone, h.idle, h.apart, ?_⟩, fun _ => hbefore, fun _ => ?_⟩
  · rw [hbefore] at hstaffed
    exact hopen.trans hstaffed
  · simp [jobs, hitems]

theorem goes_spawn (h : p.Sound) (job : α) :
    Goes p { p with
      running := p.running ++ [(.alone p.spawned, job)], spawned := p.spawned + 1 } [job] [] := by
  have hnew : .alone p.spawned ∉ p.running.map (·.1) := fun hmem =>
    Nat.lt_irrefl _ (h.alone _ hmem)
  refine ⟨⟨?_, ?_, h.idle, ?_, ?_⟩, id, fun _ => ?_⟩
  · rw [List.map_append]
    exact List.nodup_append'.2 ⟨h.hands, by simp, by simpa using hnew⟩
  · intro n hn
    rw [List.map_append] at hn
    obtain hold | hlast := List.mem_append.1 hn
    · exact Nat.lt_succ_of_lt (h.alone n hold)
    · cases List.mem_singleton.1 hlast
      exact Nat.lt_succ_self _
  · intro n hn
    simpa using h.apart n hn
  · simpa [isStaffed, isAlone] using h.staffed
  · simp only [jobs, List.map_append, List.map_cons, List.map_nil, List.nil_append,
      List.append_assoc]
    exact List.perm_append_comm.append_left _

/-- A pool may refuse a job; a vital one only if its queue is closed. -/
theorem goes_put (h : p.Sound) (isVital : Bool) (job : α) :
    Goes p (p.put isVital job) [job] [] ∨ isVital = false ∧ Goes p (p.put isVital job) [] [] := by
  obtain ⟨q, hq, hput⟩ | ⟨-, hput⟩ | ⟨hclosed, hput⟩ := p.put_cases isVital job
  · rw [hput]
    exact .inl (goes_enqueue h hq)
  · rw [hput]
    exact .inl (goes_spawn h job)
  · rw [hput]
    cases isVital with
    | false => exact .inr ⟨rfl, .refl h⟩
    -- nothing is claimed of the jobs of a closed queue
    | true => exact .inl ⟨h, id, fun hopen => by cases hopen.symm.trans (hclosed rfl)⟩

theorem goes_take {hand : Hand} {job : α} {p' : Pool α} (h : p.Sound)
    (ht : p.take? = some (hand, job, p')) : Goes p p' [] [] := by
  unfold take? at ht
  split at ht
  next n idle job' q hidle hq =>
    cases ht
    obtain ⟨hitems, -, hopen⟩ := Queue.items_take? hq
    have hapart := h.apart
    have hnodup := h.idle
    have hstaffed := h.staffed
    rw [hidle] at hapart hnodup
    have hnew : .worker n ∉ p.running.map (·.1) := hapart n (by simp)
    refine ⟨⟨?_, fun m hm => h.alone m (by simpa using hm), (List.nodup_cons.1 hnodup).2, ?_, ?_⟩,
      fun ho => hopen ▸ ho, fun _ => ?_⟩
    · rw [List.map_append]
      exact List.nodup_append'.2 ⟨h.hands, by simp, by simpa using hnew⟩
    · intro m hm hmem
      rw [List.map_append] at hmem
      obtain hold | hlast := List.mem_append.1 hmem
      · exact hapart m (List.mem_cons_of_mem _ hm) hold
      · cases List.mem_singleton.1 hlast
        exact (List.nodup_cons.1 hnodup).1 hm
    · rw [hopen, hstaffed]
      simp [isStaffed, isAlone, hidle]
    · simp [jobs, hitems]
  next => cases ht

theorem take?_eq_some {hand : Hand} {job : α} {p' : Pool α} (h : p.take? = some (hand, job, p')) :
    p'.running = p.running ++ [(hand, job)] ∧ p.queue.items = job :: p'.queue.items ∧
      p'.queue.isOpen = p.queue.isOpen ∧ p'.isStopping = p.isStopping := by
  unfold take? at h
  split at h
  next hq =>
    cases h
    obtain ⟨hitems, -, hopen⟩ := Queue.items_take? hq
    exact ⟨rfl, hitems, hopen, rfl⟩
  next => cases h

theorem mem_of_job? {hand : Hand} {job : α} (h : p.job? hand = some job) :
    hand ∈ p.running.map (·.1) := by
  obtain ⟨r, hfind, -⟩ := Option.map_eq_some_iff.1 h
  have hr : r.1 = hand := by simpa using List.find?_some hfind
  exact hr ▸ List.mem_map_of_mem (List.mem_of_find?_eq_some hfind)

/-- A hand and its job stand in one place among those that run. -/
theorem perm_of_job? {hand : Hand} {job : α} (h : p.Sound) (hj : p.job? hand = some job) :
    p.running ~ (hand, job) :: p.running.filter (·.1 ≠ hand) := by
  have hands := h.hands
  obtain ⟨r, hfind, rfl⟩ := Option.map_eq_some_iff.1 hj
  generalize p.running = rs at hands hfind
  induction rs with
  | nil => cases hfind
  | cons s rs ih =>
    rw [List.map_cons, List.nodup_cons] at hands
    by_cases hs : s.1 = hand
    · have hall : rs.filter (·.1 ≠ hand) = rs := by
        refine List.filter_eq_self.2 fun t ht => decide_eq_true fun heq => hands.1 ?_
        exact hs.trans heq.symm ▸ List.mem_map_of_mem ht
      rw [List.find?_cons_of_pos (by simpa using hs)] at hfind
      cases hfind
      rw [List.filter_cons_of_neg (by simpa using hs), hall, ← hs]
    · rw [List.find?_cons_of_neg (by simpa using hs)] at hfind
      rw [List.filter_cons_of_pos (by simpa using hs)]
      exact ((ih hands.2 hfind).cons s).trans (.swap ..)

theorem mem_of_mem_filter {rs : List (Hand × α)} {f : Hand × α → Bool} {x : Hand}
    (h : x ∈ (rs.filter f).map (·.1)) : x ∈ rs.map (·.1) :=
  (List.filter_sublist.map _).subset h

theorem isStaffed_of_filter {f : Hand × α → Bool}
    (h : isStaffed { p with running := p.running.filter f } = true) : p.isStaffed = true := by
  simp only [isStaffed, Bool.or_eq_true, List.any_eq_true] at h ⊢
  exact h.imp id fun ⟨r, hr, hw⟩ => ⟨r, (List.mem_filter.1 hr).1, hw⟩

theorem settled_of_staffed (h : p.isStaffed = true) : p.settled = p := if_pos h

theorem settled_of_not_staffed (h : p.isStaffed = false) :
    p.settled = { p with queue := p.queue.close } := if_neg (by simp [h])

theorem goes_lose {hand : Hand} {job : α} (h : p.Sound) (hj : p.job? hand = some job) :
    Goes p (p.lose hand) [] [job] := by
  have hands : ((p.running.filter (·.1 ≠ hand)).map (·.1)).Nodup :=
    h.hands.sublist (List.filter_sublist.map _)
  have alone := fun n (hn : .alone n ∈ (p.running.filter (·.1 ≠ hand)).map (·.1)) =>
    h.alone n (mem_of_mem_filter hn)
  have apart := fun n hn (hmem : .worker n ∈ (p.running.filter (·.1 ≠ hand)).map (·.1)) =>
    h.apart n hn (mem_of_mem_filter hmem)
  unfold lose
  cases hs : isStaffed { p with running := p.running.filter (·.1 ≠ hand) } with
  | true =>
    have hopen : p.queue.isOpen = true := h.staffed.trans (isStaffed_of_filter hs)
    rw [settled_of_staffed hs]
    refine ⟨⟨hands, alone, h.idle, apart, hopen.trans hs.symm⟩, fun _ => hopen, fun _ => ?_⟩
    have hperm := ((perm_of_job? h hj).map (·.2)).append_right p.queue.items
    simpa [jobs] using hperm
  | false =>
    rw [settled_of_not_staffed hs]
    exact ⟨⟨hands, alone, h.idle, apart, hs.symm⟩, nofun, nofun⟩

theorem goes_finish {hand : Hand} {job : α} (h : p.Sound) (hj : p.job? hand = some job) :
    Goes p (p.finish hand) [] [job] := by
  cases hand with
  | alone n => exact goes_lose h hj
  | worker n =>
    unfold finish
    simp only
    split
    · exact goes_lose h hj
    -- a worker that has a job does not wait, so it takes its place in the line once
    have hperm := perm_of_job? h hj
    have hmem : .worker n ∈ p.running.map (·.1) :=
      List.mem_map_of_mem (hperm.mem_iff.2 List.mem_cons_self)
    have hnew : n ∉ p.idle := fun hn => h.apart n hn hmem
    refine ⟨⟨?_, fun m hm => h.alone m (mem_of_mem_filter hm), ?_, ?_, ?_⟩, id, fun _ => ?_⟩
    · exact h.hands.sublist (List.filter_sublist.map _)
    · exact List.nodup_append'.2 ⟨h.idle, by simp, by simpa using hnew⟩
    · intro m hm hmem'
      obtain hold | hlast := List.mem_append.1 hm
      · exact h.apart m hold (mem_of_mem_filter hmem')
      · cases List.mem_singleton.1 hlast
        simp at hmem'
    · rw [h.staffed]
      obtain ⟨r, hr, hr1⟩ := List.mem_map.1 hmem
      have hbefore : p.running.any (fun r => !isAlone r.1) = true :=
        List.any_eq_true.2 ⟨r, hr, by rw [hr1]; rfl⟩
      simp [isStaffed, hbefore]
    · have hjobs := (hperm.map (·.2)).append_right p.queue.items
      simpa [jobs] using hjobs

theorem isStaffed_of_stopping (h : isStaffed { p with idle := [], isStopping := true } = true) :
    p.isStaffed = true := by
  simp only [isStaffed, List.isEmpty_nil, Bool.not_true, Bool.false_or] at h ⊢
  rw [h, Bool.or_true]

theorem goes_stop (h : p.Sound) : Goes p p.stop [] [] := by
  unfold stop
  cases hs : isStaffed { p with idle := [], isStopping := true } with
  | true =>
    have hopen : p.queue.isOpen = true := h.staffed.trans (isStaffed_of_stopping hs)
    rw [settled_of_staffed hs]
    exact ⟨⟨h.hands, h.alone, List.nodup_nil, nofun, hopen.trans hs.symm⟩, id,
      fun _ => by simp [jobs]⟩
  | false =>
    rw [settled_of_not_staffed hs]
    exact ⟨⟨h.hands, h.alone, List.nodup_nil, nofun, hs.symm⟩, nofun, nofun⟩

/-- The jobs that wait in a pool and are lost because its queue is closed. -/
def shed (p p' : Pool α) : List α := if p'.queue.isOpen then [] else p.queue.items

/-- What a pool does that lets some hands go: it keeps what waits, or sheds all of it. -/
structure Sheds (p p' : Pool α) (keep : Hand → Bool) : Prop where
  sound : p'.Sound
  running : p'.running = p.running.filter (keep ·.1)
  items : p.shed p' ++ p'.queue.items = p.queue.items

theorem shed_append_settled (h : p.queue.isOpen = true ∨ p.isStaffed = false) :
    p.shed p.settled ++ p.settled.queue.items = p.queue.items := by
  cases hs : p.isStaffed with
  | true =>
    have hopen : p.queue.isOpen = true := h.resolve_right (by simp [hs])
    simp [settled_of_staffed hs, shed, hopen]
  | false => simp [settled_of_not_staffed hs, shed, Queue.close]

theorem sheds_lose {hand : Hand} {job : α} (h : p.Sound) (hj : p.job? hand = some job) :
    p.Sheds (p.lose hand) (· ≠ hand) where
  sound := (goes_lose h hj).sound
  running := by
    unfold lose settled
    split <;> rfl
  items := by
    refine shed_append_settled (p := { p with running := p.running.filter (·.1 ≠ hand) }) ?_
    cases hs : isStaffed { p with running := p.running.filter (·.1 ≠ hand) } with
    | true => exact .inl (h.staffed.trans (isStaffed_of_filter hs))
    | false => exact .inr rfl

theorem sheds_finish {hand : Hand} {job : α} (h : p.Sound) (hj : p.job? hand = some job) :
    p.Sheds (p.finish hand) (· ≠ hand) := by
  cases hand with
  | alone n => exact sheds_lose h hj
  | worker n =>
    have hsound := (goes_finish h hj).sound
    unfold finish at hsound ⊢
    simp only at hsound ⊢
    split
    · exact sheds_lose h hj
    next hstop =>
      rw [if_neg hstop] at hsound
      refine ⟨hsound, rfl, ?_⟩
      have hopen : p.queue.isOpen = true := hsound.staffed.trans (by simp [isStaffed])
      simp [shed, hopen]

theorem sheds_stop (h : p.Sound) : p.Sheds p.stop fun _ => true where
  sound := (goes_stop h).sound
  running := by
    unfold stop settled
    split <;> simp
  items := by
    refine shed_append_settled (p := { p with idle := [], isStopping := true }) ?_
    cases hs : isStaffed { p with idle := [], isStopping := true } with
    | true => exact .inl (h.staffed.trans (isStaffed_of_stopping hs))
    | false => exact .inr rfl

def load (p : Pool α) : Nat := 2 * p.queue.items.length + p.running.length

structure Lighter (p p' : Pool α) : Prop where
  sound : p'.Sound
  staffed : p'.isStaffed = true
  isStopping : p'.isStopping = false
  load : p'.load < p.load
  jobs : p'.jobs ⊆ p.jobs

theorem isStaffed_finish {hand : Hand} {job : α} (hj : p.job? hand = some job)
    (hs : p.isStaffed = true) (hstop : p.isStopping = false) :
    (p.finish hand).isStaffed = true ∧ (p.finish hand).isStopping = false ∧
      (p.finish hand).running = p.running.filter (·.1 ≠ hand) ∧
      (p.finish hand).queue = p.queue := by
  cases hand with
  | worker n => simp [finish, hstop, isStaffed]
  | alone n =>
    have hstaffed : isStaffed { p with running := p.running.filter (·.1 ≠ .alone n) } = true := by
      simp only [isStaffed, Bool.or_eq_true, List.any_eq_true] at hs ⊢
      refine hs.imp id fun ⟨r, hr, hw⟩ => ⟨r, List.mem_filter.2 ⟨hr, ?_⟩, hw⟩
      refine decide_eq_true fun heq => ?_
      rw [heq] at hw
      cases hw
    have hfinish : p.finish (.alone n) = _ := settled_of_staffed hstaffed
    rw [hfinish]
    exact ⟨hstaffed, hstop, rfl, rfl⟩

theorem lighter_finish {hand : Hand} {job : α} (h : p.Sound) (hj : p.job? hand = some job)
    (hs : p.isStaffed = true) (hstop : p.isStopping = false) : p.Lighter (p.finish hand) := by
  obtain ⟨hs', hstop', hrunning, hqueue⟩ := isStaffed_finish hj hs hstop
  refine ⟨(goes_finish h hj).sound, hs', hstop', ?_, ?_⟩
  · have hlen := (perm_of_job? h hj).length_eq
    rw [List.length_cons] at hlen
    unfold load
    rw [hrunning, hqueue]
    omega
  · unfold jobs
    rw [hrunning, hqueue]
    exact List.append_subset.2 ⟨fun j hj => List.mem_append_left _
      ((List.filter_sublist.map _).subset hj), List.subset_append_right ..⟩

/-- A pool that has workers but nothing that runs can take a job. -/
theorem lighter_take (h : p.Sound) (hs : p.isStaffed = true) (hstop : p.isStopping = false)
    (hrunning : p.running = []) (hitems : p.queue.items ≠ []) :
    ∃ hand job p', p.take? = some (hand, job, p') ∧ p.Lighter p' := by
  cases hidle : p.idle with
  | nil => simp [isStaffed, hidle, hrunning] at hs
  | cons n idle =>
    cases hq : p.queue.take? with
    | none =>
      unfold Queue.take? at hq
      split at hq
      next hnil => exact absurd hnil hitems
      next => cases hq
    | some taken =>
      obtain ⟨job, q⟩ := taken
      have htaken := (Queue.items_take? hq).1
      have ht : p.take? = some (.worker n, job,
          { p with queue := q, idle, running := p.running ++ [(.worker n, job)] }) := by
        simp [take?, hidle, hq]
      refine ⟨_, _, _, ht, (goes_take h ht).sound, by simp [isStaffed, isAlone], hstop, ?_, ?_⟩
      · simp [load, htaken]
        omega
      · simp [jobs, htaken, hrunning]

end Moderation.Worker.Pool
