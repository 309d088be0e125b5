import Mathlib.Data.List.Induction
import Moderation.Proofs.Worker.Pool
/-!
Runs of a pool that nobody stops. Jobs come at any time, workers take them in turn, and hands go on
with their jobs, end them or are lost with them. As long as a worker is left, every job in the queue
is begun once and in its turn; a pool that has lost all its workers takes no job any more.
-/
namespace Moderation.Worker

inductive Move (α : Type) where
  | submit (job : α)
  | submitOrSpawn (job : α)
  | take
  | goOn (h : Hand) (job : α)
  | finish (h : Hand)
  | lose (h : Hand)

inductive Deed (α : Type) where
  | queued (job : α)
  | refused (cause : Refusal) (job : α)
  | begun (h : Hand) (job : α)
  | ended (h : Hand)
  | lost (h : Hand)
  deriving DecidableEq

namespace Move
variable {α : Type}

def job? : Move α → Option α
  | .submit job => some job
  | .submitOrSpawn job => some job
  | _ => none

def isWork : Move α → Bool
  | .take => true
  | .goOn _ _ => true
  | .finish _ => true
  | _ => false

end Move

namespace Deed
variable {α : Type}

def enqueued (log : List (Deed α)) : List α :=
  log.filterMap fun
    | .queued job => some job
    | _ => none

def taken (log : List (Deed α)) : List α :=
  log.filterMap fun
    | .begun (.worker _) job => some job
    | _ => none

def spawnings (log : List (Deed α)) : List Nat :=
  log.filterMap fun
    | .begun (.alone n) _ => some n
    | _ => none

def answered (log : List (Deed α)) : List α :=
  log.filterMap fun
    | .queued job => some job
    | .refused _ job => some job
    | .begun (.alone _) job => some job
    | _ => none

def begins (h : Hand) (log : List (Deed α)) : Nat :=
  log.countP fun
    | .begun h' _ => h' = h
    | _ => false

def ends (h : Hand) (log : List (Deed α)) : Nat :=
  log.countP fun
    | .ended h' => h' = h
    | .lost h' => h' = h
    | _ => false

def lostWorkers (log : List (Deed α)) : Nat :=
  log.countP fun
    | .lost (.worker _) => true
    | _ => false

variable (log log' : List (Deed α))

theorem enqueued_append : enqueued (log ++ log') = enqueued log ++ enqueued log' :=
  List.filterMap_append

theorem taken_append : taken (log ++ log') = taken log ++ taken log' := List.filterMap_append

theorem spawnings_append : spawnings (log ++ log') = spawnings log ++ spawnings log' :=
  List.filterMap_append

theorem answered_append : answered (log ++ log') = answered log ++ answered log' :=
  List.filterMap_append

theorem begins_append (h : Hand) : begins h (log ++ log') = begins h log + begins h log' :=
  List.countP_append

theorem ends_append (h : Hand) : ends h (log ++ log') = ends h log + ends h log' :=
  List.countP_append

theorem lostWorkers_append : lostWorkers (log ++ log') = lostWorkers log + lostWorkers log' :=
  List.countP_append

end Deed

namespace Pool
open Deed
open scoped List
variable {α : Type} {p : Pool α}

def step (p : Pool α) : Move α → Option (Deed α) × Pool α
  | .submit job => match p.submit job with
    | .ok p' => (some (.queued job), p')
    | .error cause => (some (.refused cause job), p)
  | .submitOrSpawn job => match p.submitOrSpawn job with
    | .ok p' =>
      (some (if p'.spawned = p.spawned then .queued job else .begun (.alone p.spawned) job), p')
    | .error cause => (some (.refused cause job), p)
  | .take => match p.take? with
    | some (h, job, p') => (some (.begun h job), p')
    | none => (none, p)
  | .goOn h job => (none, p.update h job)
  | .finish h => if (p.job? h).isSome then (some (.ended h), p.finish h) else (none, p)
  | .lose h => if (p.job? h).isSome then (some (.lost h), p.lose h) else (none, p)

def after (p : Pool α) (ms : List (Move α)) : Pool α := ms.foldl (fun p m => (p.step m).2) p

def log (p : Pool α) : List (Move α) → List (Deed α)
  | [] => []
  | m :: ms => (p.step m).1.toList ++ log (p.step m).2 ms

theorem after_append (p : Pool α) (ms ms' : List (Move α)) :
    p.after (ms ++ ms') = (p.after ms).after ms' := List.foldl_append

def hands (p : Pool α) : List Hand := p.running.map (·.1)

def working (p : Pool α) : Nat := p.hands.countP (!isAlone ·)

theorem isStaffed_iff : p.isStaffed = true ↔ 0 < p.idle.length + p.working := by
  have hworking : p.running.any (fun r => !isAlone r.1) = true ↔ 0 < p.working := by
    rw [working, hands, List.countP_map, List.countP_pos_iff, List.any_eq_true]
    rfl
  rw [isStaffed, Bool.or_eq_true, hworking]
  cases p.idle with
  | nil => simp
  | cons n idle => exact iff_of_true (.inl rfl) (Nat.add_pos_left (Nat.succ_pos _) _)

theorem perm_hands {hand : Hand} {job : α} (h : p.Sound) (hj : p.job? hand = some job) :
    p.hands ~ hand :: (p.running.filter (·.1 ≠ hand)).map (·.1) :=
  (perm_of_job? h hj).map _

theorem mem_hands_iff {hand : Hand} : (p.job? hand).isSome = true ↔ hand ∈ p.hands := by
  simp [job?, hands]

theorem count_hands (h : p.Sound) (hand : Hand) :
    p.hands.count hand = if (p.job? hand).isSome then 1 else 0 := by
  have hnodup : p.hands.Nodup := h.hands
  rw [hnodup.count]
  exact if_congr mem_hands_iff.symm rfl rfl

@[simp] theorem hands_update (hand : Hand) (job : α) : (p.update hand job).hands = p.hands := by
  rw [hands, update, List.map_map]
  refine List.map_congr_left fun r _ => ?_
  rw [Function.comp_apply]
  split
  next heq => exact heq.symm
  next => rfl

theorem sound_update (h : p.Sound) (hand : Hand) (job : α) : (p.update hand job).Sound := by
  have hhands : (p.update hand job).running.map (·.1) = p.running.map (·.1) := hands_update hand job
  refine ⟨hhands ▸ h.hands, hhands ▸ h.alone, h.idle, hhands ▸ h.apart, ?_⟩
  rw [Bool.eq_iff_iff, isStaffed_iff, working, hands_update]
  exact (Bool.eq_iff_iff.1 h.staffed).trans isStaffed_iff

theorem lose_frame (p : Pool α) (hand : Hand) :
    (p.lose hand).idle = p.idle ∧ (p.lose hand).spawned = p.spawned ∧
      (p.lose hand).isStopping = p.isStopping ∧
      (p.lose hand).queue.capacity = p.queue.capacity := by
  unfold lose settled
  split <;> exact ⟨rfl, rfl, rfl, rfl⟩

structure Advances (p p' : Pool α) (log : List (Deed α)) : Prop where
  sound : p'.Sound
  isStopping : p'.isStopping = p.isStopping
  capacity : p'.queue.capacity = p.queue.capacity
  staff : p'.working + p'.idle.length + lostWorkers log = p.working + p.idle.length
  isOpen : p'.queue.isOpen = true → p.queue.isOpen = true
  order : p'.queue.isOpen = true → taken log ++ p'.queue.items = p.queue.items ++ enqueued log
  hands : ∀ h, begins h log + p.hands.count h = ends h log + p'.hands.count h
  spawned : List.range p'.spawned = List.range p.spawned ++ spawnings log

theorem Advances.refl (h : p.Sound) : Advances p p [] where
  sound := h
  isStopping := rfl
  capacity := rfl
  staff := rfl
  isOpen := id
  order _ := (List.append_nil _).symm
  hands _ := rfl
  spawned := (List.append_nil _).symm

theorem Advances.trans {p' p'' : Pool α} {log log' : List (Deed α)} (h : Advances p p' log)
    (h' : Advances p' p'' log') : Advances p p'' (log ++ log') where
  sound := h'.sound
  isStopping := h'.isStopping.trans h.isStopping
  capacity := h'.capacity.trans h.capacity
  staff := by
    have hfirst := h.staff
    have hsecond := h'.staff
    rw [lostWorkers_append]
    omega
  isOpen := h.isOpen ∘ h'.isOpen
  order ho := calc
    taken (log ++ log') ++ p''.queue.items = taken log ++ (taken log' ++ p''.queue.items) := by
      rw [taken_append, List.append_assoc]
    _ = (taken log ++ p'.queue.items) ++ enqueued log' := by rw [h'.order ho, List.append_assoc]
    _ = p.queue.items ++ enqueued (log ++ log') := by
      rw [h.order (h'.isOpen ho), enqueued_append, List.append_assoc]
  hands hand := by
    have hfirst := h.hands hand
    have hsecond := h'.hands hand
    rw [begins_append, ends_append]
    omega
  spawned := by rw [h'.spawned, h.spawned, spawnings_append, List.append_assoc]

theorem advances_enqueue (h : p.Sound) {job : α} {q : Queue α} (hq : p.queue.offer job = .ok q) :
    Advances p { p with queue := q } [.queued job] := by
  obtain ⟨hitems, hcapacity, -⟩ := Queue.items_offer hq
  have hgoes := goes_enqueue h hq
  exact ⟨hgoes.sound, rfl, hcapacity, rfl, hgoes.isOpen, fun _ => hitems, fun _ => rfl,
    (List.append_nil _).symm⟩

theorem advances_refuse (h : p.Sound) (cause : Refusal) (job : α) :
    Advances p p [.refused cause job] :=
  ⟨h, rfl, rfl, rfl, id, fun _ => (List.append_nil _).symm, fun _ => rfl,
    (List.append_nil _).symm⟩

theorem advances_spawn (h : p.Sound) (job : α) :
    Advances p { p with
      running := p.running ++ [(.alone p.spawned, job)], spawned := p.spawned + 1 }
      [.begun (.alone p.spawned) job] where
  sound := (goes_spawn h job).sound
  isStopping := rfl
  capacity := rfl
  staff := by simp [lostWorkers, working, Pool.hands, isAlone]
  isOpen := id
  order _ := (List.append_nil _).symm
  hands hand := by simp [begins, ends, Pool.hands, List.count_singleton, Nat.add_comm]
  spawned := List.range_succ

theorem advances_take (h : p.Sound) {hand : Hand} {job : α} {p' : Pool α}
    (ht : p.take? = some (hand, job, p')) : Advances p p' [.begun hand job] := by
  have hgoes := goes_take h ht
  unfold take? at ht
  split at ht
  next n idle job' q hidle hq =>
    cases ht
    obtain ⟨hitems, hcapacity, -⟩ := Queue.items_take? hq
    refine ⟨hgoes.sound, rfl, hcapacity, ?_, hgoes.isOpen, fun _ => ?_, fun hand => ?_,
      (List.append_nil _).symm⟩
    -- the worker leaves the line of those that wait and stands among those that work
    · simp [lostWorkers, working, Pool.hands, isAlone, hidle]
      omega
    · rw [hitems]
      exact (List.append_nil _).symm
    · simp [begins, ends, Pool.hands, List.count_singleton, Nat.add_comm]
  next => cases ht

theorem advances_update (h : p.Sound) (hand : Hand) (job : α) :
    Advances p (p.update hand job) [] where
  sound := sound_update h hand job
  isStopping := rfl
  capacity := rfl
  staff := by
    rw [working, hands_update]
    rfl
  isOpen := id
  order _ := (List.append_nil _).symm
  hands hand' := by rw [hands_update]; rfl
  spawned := (List.append_nil _).symm

/-- A hand that has no job any more: it is done, or the hand is lost. -/
theorem advances_leave (h : p.Sound) {hand : Hand} {job : α} {p' : Pool α} {d : Deed α}
    (hj : p.job? hand = some job) (hd : d = .ended hand ∨ d = .lost hand)
    (hsheds : p.Sheds p' (· ≠ hand)) (hisOpen : p'.queue.isOpen = true → p.queue.isOpen = true)
    (hstopping : p'.isStopping = p.isStopping) (hspawned : p'.spawned = p.spawned)
    (hcapacity : p'.queue.capacity = p.queue.capacity)
    (hidle : p'.idle.length + lostWorkers [d] = p.idle.length + if isAlone hand then 0 else 1) :
    Advances p p' [d] where
  sound := hsheds.sound
  isStopping := hstopping
  capacity := hcapacity
  staff := by
    have hworking := (perm_hands h hj).countP_eq (!isAlone ·)
    rw [List.countP_cons, ← hsheds.running] at hworking
    have hrest : p.working = p'.working + if isAlone hand then 0 else 1 := by
      rw [working, hworking]
      cases isAlone hand <;> rfl
    omega
  isOpen := hisOpen
  order ho := by
    -- a queue that is open has shed nothing
    have hitems := hsheds.items
    rw [shed, if_pos ho, List.nil_append] at hitems
    rw [hitems]
    obtain rfl | rfl := hd <;> exact (List.append_nil _).symm
  hands hand' := by
    have hcount := (perm_hands h hj).count_eq hand'
    rw [List.count_cons, ← hsheds.running] at hcount
    have hleft : begins hand' [d] = 0 ∧ ends hand' [d] = if hand == hand' then 1 else 0 := by
      obtain rfl | rfl := hd <;> simp [begins, ends, List.countP_cons]
    rw [hleft.1, hleft.2, hcount, Pool.hands]
    omega
  spawned := by
    rw [hspawned]
    obtain rfl | rfl := hd <;> exact (List.append_nil _).symm

theorem advances_lose (h : p.Sound) {hand : Hand} {job : α} {d : Deed α}
    (hj : p.job? hand = some job) (hd : d = .lost hand ∨ d = .ended hand ∧ isAlone hand = true) :
    Advances p (p.lose hand) [d] := by
  obtain ⟨hidle, hspawned, hstopping, hcapacity⟩ := p.lose_frame hand
  refine advances_leave h hj (hd.symm.imp_left And.left) (sheds_lose h hj)
    (goes_lose h hj).isOpen hstopping hspawned hcapacity ?_
  rw [hidle]
  obtain rfl | ⟨rfl, halone⟩ := hd
  · cases hand <;> rfl
  · rw [halone]
    rfl

theorem advances_finish (h : p.Sound) {hand : Hand} {job : α} (hj : p.job? hand = some job)
    (hstop : p.isStopping = false) : Advances p (p.finish hand) [.ended hand] := by
  cases hand with
  | alone n => exact advances_lose h hj (.inr ⟨rfl, rfl⟩)
  | worker n =>
    have hfinish : p.finish (.worker n) = { p with
        running := p.running.filter (·.1 ≠ .worker n), idle := p.idle ++ [n] } := by
      simp [finish, hstop]
    have hsheds := sheds_finish h hj
    rw [hfinish] at hsheds ⊢
    refine advances_leave h hj (.inl rfl) hsheds id rfl rfl rfl ?_
    rw [List.length_append]
    rfl

theorem step_submit_cases (p : Pool α) (job : α) :
    (∃ q, p.queue.offer job = .ok q ∧
      p.step (.submit job) = (some (.queued job), { p with queue := q }) ∧
      p.step (.submitOrSpawn job) = (some (.queued job), { p with queue := q })) ∨
    (p.queue.offer job = .error .full ∧
      p.step (.submit job) = (some (.refused .full job), p) ∧
      p.step (.submitOrSpawn job) = (some (.begun (.alone p.spawned) job), { p with
        running := p.running ++ [(.alone p.spawned, job)], spawned := p.spawned + 1 })) ∨
    (p.queue.offer job = .error .closed ∧
      p.step (.submit job) = (some (.refused .closed job), p) ∧
      p.step (.submitOrSpawn job) = (some (.refused .closed job), p)) := by
  cases ho : p.queue.offer job with
  | ok q => exact .inl ⟨q, rfl, by simp [step, submit, ho], by simp [step, submitOrSpawn, submit, ho]⟩
  | error cause =>
    cases cause with
    | full =>
      exact .inr (.inl ⟨rfl, by simp [step, submit, ho], by simp [step, submitOrSpawn, submit, ho]⟩)
    | closed =>
      exact .inr (.inr ⟨rfl, by simp [step, submit, ho], by simp [step, submitOrSpawn, submit, ho]⟩)

theorem advances_step (h : p.Sound) (hstop : p.isStopping = false) (m : Move α) :
    Advances p (p.step m).2 (p.step m).1.toList := by
  cases m with
  | submit job =>
    obtain ⟨q, hq, hstep, -⟩ | ⟨-, hstep, -⟩ | ⟨-, hstep, -⟩ := p.step_submit_cases job
    · rw [hstep]
      exact advances_enqueue h hq
    · rw [hstep]
      exact advances_refuse h _ job
    · rw [hstep]
      exact advances_refuse h _ job
  | submitOrSpawn job =>
    obtain ⟨q, hq, -, hstep⟩ | ⟨-, -, hstep⟩ | ⟨-, -, hstep⟩ := p.step_submit_cases job
    · rw [hstep]
      exact advances_enqueue h hq
    · rw [hstep]
      exact advances_spawn h job
    · rw [hstep]
      exact advances_refuse h _ job
  | take =>
    cases ht : p.take? with
    | none => simpa [step, ht] using Advances.refl h
    | some taken => simpa [step, ht] using advances_take h ht
  | goOn hand job => exact advances_update h hand job
  | finish hand =>
    cases hj : p.job? hand with
    | none => simpa [step, hj] using Advances.refl h
    | some job => simpa [step, hj] using advances_finish h hj hstop
  | lose hand =>
    cases hj : p.job? hand with
    | none => simpa [step, hj] using Advances.refl h
    | some job => simpa [step, hj] using advances_lose h hj (.inl rfl)

theorem advances_after (h : p.Sound) (hstop : p.isStopping = false) (ms : List (Move α)) :
    Advances p (p.after ms) (p.log ms) := by
  induction ms generalizing p with
  | nil => exact .refl h
  | cons m ms ih =>
    have hstep := advances_step h hstop m
    exact hstep.trans (ih hstep.sound (hstep.isStopping.trans hstop))

end Pool
end Moderation.Worker
