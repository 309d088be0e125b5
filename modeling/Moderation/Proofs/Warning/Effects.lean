import Mathlib.Data.List.Induction
import Moderation.Proofs.Warning.Reaction
import Moderation.Proofs.Worker.Pool
/-!
Runs of a warning engine at its desk. Every escalation is acted on once, however full the queues
are, and nothing else is acted on except what other tasks ask for.
-/
namespace Moderation.Warning
open Notice Time Worker
open scoped List

def request? : Job → Option Ban.Request
  | .act r => some r
  | _ => none

theorem request?_of_not_vital {j : Job} (h : j.isVital = false) : request? j = none := by
  cases j <;> first | rfl | cases h

theorem goes_place {o : Office} (h : o.pool.Sound) (j : Job) :
    ∃ come, o.pool.Goes (o.place j).pool come [] ∧
      come.filterMap request? = [j].filterMap request? := by
  obtain hgoes | ⟨hvital, hgoes⟩ := Pool.goes_put h j.isVital j
  · exact ⟨[j], hgoes, rfl⟩
  · exact ⟨[], hgoes, by simp [request?_of_not_vital hvital]⟩

theorem goes_placeAll {o : Office} (h : o.pool.Sound) (js : List Job) :
    ∃ come, o.pool.Goes (o.placeAll js).pool come [] ∧
      come.filterMap request? = js.filterMap request? := by
  induction js generalizing o with
  | nil => exact ⟨[], .refl h, rfl⟩
  | cons j js ih =>
    obtain ⟨come, hgoes, hcome⟩ := goes_place h j
    obtain ⟨later, hlater, heq⟩ := ih hgoes.sound
    refine ⟨come ++ later, hgoes.trans hlater, ?_⟩
    rw [List.filterMap_append, hcome, heq, ← List.filterMap_append]
    rfl

theorem carryOut_pool (o : Office) (now : Instant) (hand : Hand) (j : Job) :
    (o.carryOut now hand j).pool = o.pool.finish hand ∨
      (o.carryOut now hand j).pool = o.pool.lose hand := by
  unfold Office.carryOut
  dsimp only
  split
  · exact .inl rfl
  · exact .inl rfl
  · exact .inr rfl

/-- The requests that should be carried out: those of the escalations and those of other tasks. -/
def Scene.asked (s : Scene) (p : Policy) : List Ban.Request :=
  s.handled.filterMap (·.request? p) ++ s.foreign.filterMap request?

structure Scene.Steps (s s' : Scene) (p : Policy) (come gone : List Job) : Prop where
  goes : s.desk.office.pool.Goes s'.desk.office.pool come gone
  done : s'.done.map (·.job) = s.done.map (·.job) ++ gone
  asked : s'.asked p ~ s.asked p ++ come.filterMap request?

def Desk.handled (d : Desk) (e : Event) (now dated : Instant) : Handled :=
  ⟨e, now, dated, d, (d.handle e now dated).2, (d.handle e now dated).1⟩

theorem goes_handle {d : Desk} {p : Policy} (h : d.office.pool.Sound) (hp : d.engine.policy = p)
    (e : Event) (now dated : Instant) :
    ∃ come, d.office.pool.Goes (d.handle e now dated).2.office.pool come [] ∧
      come.filterMap request? = [d.handled e now dated].filterMap (·.request? p) := by
  cases ho : d.engine.offence? e with
  | none =>
    refine ⟨[], ?_, ?_⟩
    · rw [Desk.handle_of_none ho]
      exact .refl h
    · simp [Desk.handled, Desk.handle_of_none ho, Handled.request?]
  | some o =>
    obtain ⟨-, hactor, -⟩ := offence?_eq_some ho
    rcases hrec : d.engine.tracker.record o.player.steamId (o.warning now) with ⟨out, tracker⟩
    obtain ⟨come, hgoes, hcome⟩ := goes_placeAll h
      [.countTrigger o.found.filterId, out.job p o e.origin now]
    refine ⟨come, ?_, ?_⟩
    · simp only [Desk.handle_of_some ho, hp, hrec]
      exact hgoes
    · rw [hcome]
      cases out with
      | warned n =>
        have hnone : (d.handled e now dated).request? p = none := by
          simp [Desk.handled, Desk.handle_of_some ho, hrec, Handled.request?]
        rw [List.filterMap_cons_none hnone]
        rfl
      | escalated ws =>
        have hsome : (d.handled e now dated).request? p = some (o.request p e.origin now) := by
          simp [Desk.handled, Desk.handle_of_some ho, hrec, Handled.request?, hactor,
            Offence.request]
        rw [List.filterMap_cons_some hsome]
        rfl

namespace Scene
variable {s : Scene} {p : Policy}

theorem steps_of_goes {desk : Desk} {come : List Job}
    (h : s.desk.office.pool.Goes desk.office.pool come []) (hcome : come.filterMap request? = []) :
    s.Steps { s with desk } p come [] where
  goes := h
  done := (List.append_nil _).symm
  asked := by simp [asked, hcome]

theorem steps_handle (h : s.desk.office.pool.Sound) (hp : s.desk.engine.policy = p) (e : Event)
    (now dated : Instant) : ∃ come, s.Steps (s.step (.handle e now dated)) p come [] := by
  obtain ⟨come, hgoes, hcome⟩ := goes_handle h hp e now dated
  refine ⟨come, hgoes, (List.append_nil _).symm, ?_⟩
  have hasked : (s.step (.handle e now dated)).asked p = s.handled.filterMap (·.request? p) ++
      come.filterMap request? ++ s.foreign.filterMap request? := by
    rw [hcome, ← List.filterMap_append]
    rfl
  rw [hasked, asked, List.append_assoc, List.append_assoc]
  exact List.perm_append_comm.append_left _

theorem steps_place (h : s.desk.office.pool.Sound) (j : Job) :
    ∃ come, s.Steps (s.step (.place j)) p come [] := by
  obtain ⟨come, hgoes, hcome⟩ := goes_place h j
  refine ⟨come, hgoes, (List.append_nil _).symm, ?_⟩
  rw [hcome]
  simp [asked, step]

theorem steps_take (h : s.desk.office.pool.Sound) : s.Steps (s.step .take) p [] [] := by
  refine steps_of_goes ?_ rfl
  cases ht : s.desk.office.pool.take? with
  | none => exact .refl h
  | some taken => exact Pool.goes_take h ht

theorem steps_carryOut (h : s.desk.office.pool.Sound) (hand : Hand) (now : Instant) :
    ∃ gone, s.Steps (s.step (.carryOut hand now)) p [] gone := by
  refine ⟨(s.desk.office.pool.job? hand).toList, ?_, by simp [step, Function.comp_def],
    by simp [asked, step]⟩
  simp only [step]
  cases hj : s.desk.office.pool.job? hand with
  | none => exact .refl h
  | some j =>
    simp only [Option.map_some, Option.getD_some, Option.toList_some]
    obtain hpool | hpool := carryOut_pool s.desk.office now hand j
    · exact hpool ▸ Pool.goes_finish h hj
    · exact hpool ▸ Pool.goes_lose h hj

/-- No step loses a request while the queue of the pool is open. -/
theorem steps_step (h : s.desk.office.pool.Sound) (hp : s.desk.engine.policy = p) (move : Move) :
    ∃ come gone, s.Steps (s.step move) p come gone := by
  cases move with
  | handle e now dated =>
    obtain ⟨come, hstep⟩ := steps_handle h hp e now dated
    exact ⟨come, [], hstep⟩
  | place j =>
    obtain ⟨come, hstep⟩ := steps_place h j
    exact ⟨come, [], hstep⟩
  | carryOut hand now =>
    obtain ⟨gone, hstep⟩ := steps_carryOut h hand now
    exact ⟨[], gone, hstep⟩
  | take => exact ⟨[], [], steps_take h⟩
  | stop => exact ⟨[], [], steps_of_goes (Pool.goes_stop h) rfl⟩
  | _ => exact ⟨[], [], steps_of_goes (.refl h) rfl⟩

structure Keeps (s : Scene) (u : Setup) (moves : List Move) : Prop where
  policy : s.desk.engine.policy = u.policy
  filters : s.desk.engine.filters = u.filters
  sound : s.desk.office.pool.Sound
  events : s.handled.map (fun h => (h.event, h.now, h.dated)) = moves.filterMap Move.event?
  foreign : s.foreign = moves.filterMap Move.job?
  handled : ∀ h ∈ s.handled, h.Belongs u
  done : ∀ d ∈ s.done, d.after = (d.job.carryOut d.before).2
  balance : s.desk.office.pool.queue.isOpen = true →
    (s.done.map (·.job) ++ s.desk.office.pool.jobs).filterMap request? ~ s.asked u.policy

theorem keeps_start (u : Setup) : (start u).Keeps u [] where
  policy := rfl
  filters := rfl
  sound := Pool.sound_start ..
  events := rfl
  foreign := rfl
  handled h hh := by cases hh
  done d hd := by cases hd
  balance _ := by
    have hjobs : (start u).desk.office.pool.jobs = [] := Pool.jobs_start ..
    rw [hjobs]
    exact List.Perm.refl _

theorem Steps.balance {s' : Scene} {come gone : List Job} (h : s.Steps s' p come gone)
    (hopen : s'.desk.office.pool.queue.isOpen = true)
    (hs : (s.done.map (·.job) ++ s.desk.office.pool.jobs).filterMap request? ~ s.asked p) :
    (s'.done.map (·.job) ++ s'.desk.office.pool.jobs).filterMap request? ~ s'.asked p := by
  have hjobs := (h.goes.jobs hopen).append_left (s.done.map (·.job))
  rw [← List.append_assoc, ← List.append_assoc, ← h.done] at hjobs
  refine (hjobs.symm.filterMap request?).trans ?_
  rw [List.filterMap_append]
  exact (hs.append_right _).trans h.asked.symm

theorem step_engine (s : Scene) (move : Move) :
    (s.step move).desk.engine.policy = s.desk.engine.policy ∧
      (s.step move).desk.engine.filters = s.desk.engine.filters := by
  cases move with
  | handle e now dated =>
    cases ho : s.desk.engine.offence? e with
    | none => simp [step, Desk.handle_of_none ho]
    | some o => simp [step, Desk.handle_of_some ho]
  | _ => exact ⟨rfl, rfl⟩

theorem step_handled (s : Scene) (move : Move) :
    (s.step move).handled = s.handled ++
      move.event?.toList.map fun (e, now, dated) => s.desk.handled e now dated := by
  cases move with
  | handle e now dated => rfl
  | _ => simp [step, Move.event?]

theorem step_foreign (s : Scene) (move : Move) :
    (s.step move).foreign = s.foreign ++ move.job?.toList := by
  cases move with
  | place j => rfl
  | _ => simp [step, Move.job?]

theorem step_done (s : Scene) (move : Move) :
    ∀ d ∈ (s.step move).done, d ∈ s.done ∨ d.after = (d.job.carryOut d.before).2 := by
  intro d hd
  cases move with
  | carryOut hand now =>
    obtain hold | hnew := List.mem_append.1 hd
    · exact .inl hold
    · obtain ⟨j, -, rfl⟩ := List.mem_map.1 hnew
      exact .inr rfl
  | _ => exact .inl hd

theorem keeps_run (u : Setup) (moves : List Move) : ((start u).run moves).Keeps u moves := by
  induction moves using List.reverseRecOn with
  | nil => exact keeps_start u
  | append_singleton moves move ih =>
    obtain ⟨come, gone, hstep⟩ := steps_step ih.sound ih.policy move
    -- a queue that is open after the step was open before, so the balance so far can be used
    have hengine := step_engine ((start u).run moves) move
    rw [run_concat]
    refine ⟨hengine.1.trans ih.policy, hengine.2.trans ih.filters, hstep.goes.sound, ?_, ?_, ?_,
      ?_, fun hopen => hstep.balance hopen (ih.balance (hstep.goes.isOpen hopen))⟩
    · rw [step_handled, List.map_append, ih.events, List.filterMap_append]
      cases move <;> rfl
    · rw [step_foreign, ih.foreign, List.filterMap_append]
      cases move <;> rfl
    · intro h hh
      rw [step_handled] at hh
      obtain hold | hnew := List.mem_append.1 hh
      · exact ih.handled h hold
      · obtain ⟨⟨e, now, dated⟩, -, rfl⟩ := List.mem_map.1 hnew
        exact ⟨ih.policy, ih.filters, rfl⟩
    · intro d hd
      obtain hold | hnew := step_done _ move d hd
      · exact ih.done d hold
      · exact hnew

def CanAnnounce (externalUrl : String) (now : Instant) (j : Job) : Prop :=
  ∀ m, j = .saveMatch m → ∃ n, announcement externalUrl now m = .ok n

theorem eq_of_announced? {j : Job} {answer : Except StoreError Unit} {m : Match.Sealed}
    (h : j.announced? answer = some m) : j = .saveMatch m := by
  unfold Job.announced? at h
  split at h
  · cases h
    rfl
  · cases h

theorem eq_of_carryOut_saved {s : Services} {j : Job} {m : Match.Sealed}
    (h : (j.carryOut s).1 = some m) : j = .saveMatch m := by
  unfold Job.carryOut at h
  split at h
  · exact eq_of_announced? h
  · cases h

theorem carryOut_pool_of_canAnnounce {o : Office} {now : Instant} {j : Job}
    (h : CanAnnounce o.externalUrl now j) (hand : Hand) :
    (o.carryOut now hand j).pool = o.pool.finish hand ∧
      (o.carryOut now hand j).externalUrl = o.externalUrl := by
  rcases hcarry : j.carryOut o.services with ⟨saved, services⟩
  cases saved with
  | none => simp [Office.carryOut, hcarry]
  | some m =>
    obtain ⟨n, hn⟩ := h m (eq_of_carryOut_saved (congrArg Prod.fst hcarry))
    simp [Office.carryOut, hcarry, hn, Office.post]

/-- A staffed pool comes to rest if only its hands go on. -/
theorem exists_quiet {s : Scene} (now : Instant) (h : s.desk.office.pool.Sound)
    (hstaffed : s.desk.office.pool.isStaffed = true)
    (hstop : s.desk.office.pool.isStopping = false)
    (hfit : ∀ j ∈ s.desk.office.pool.jobs, CanAnnounce s.desk.office.externalUrl now j) :
    ∃ moves, (∀ m ∈ moves, m = .take ∨ ∃ hand, m = .carryOut hand now) ∧ (s.run moves).IsQuiet := by
  induction hload : s.desk.office.pool.load using Nat.strongRecOn generalizing s with
  | ind load ih =>
  have goOn : ∀ move, (move = .take ∨ ∃ hand, move = .carryOut hand now) →
      s.desk.office.pool.Lighter (s.step move).desk.office.pool →
      (s.step move).desk.office.externalUrl = s.desk.office.externalUrl →
      ∃ moves, (∀ m ∈ moves, m = .take ∨ ∃ hand, m = .carryOut hand now) ∧
        (s.run moves).IsQuiet := by
    intro move hmove hl hurl
    have hfit' : ∀ j ∈ (s.step move).desk.office.pool.jobs,
        CanAnnounce (s.step move).desk.office.externalUrl now j := by
      intro j hj
      rw [hurl]
      exact hfit j (hl.jobs hj)
    obtain ⟨moves, hmoves, hquiet⟩ :=
      ih _ (hload ▸ hl.load) hl.sound hl.staffed hl.isStopping hfit' rfl
    exact ⟨move :: moves, List.forall_mem_cons.2 ⟨hmove, hmoves⟩, hquiet⟩
  cases hrunning : s.desk.office.pool.running with
  | cons r rest =>
    obtain ⟨hand, j⟩ := r
    have hj : s.desk.office.pool.job? hand = some j := by simp [Pool.job?, hrunning]
    have hmem : j ∈ s.desk.office.pool.jobs := by simp [Pool.jobs, hrunning]
    obtain ⟨hpool, hurl⟩ := carryOut_pool_of_canAnnounce (hfit j hmem) hand
    refine goOn (.carryOut hand now) (.inr ⟨hand, rfl⟩) ?_ (by simp [step, hj, hurl])
    simp only [step, hj, Option.map_some, Option.getD_some, hpool]
    exact Pool.lighter_finish h hj hstaffed hstop
  | nil =>
    by_cases hitems : s.desk.office.pool.queue.items = []
    · exact ⟨[], List.forall_mem_nil _, hstaffed, hrunning, hitems⟩
    · obtain ⟨hand, j, p', ht, hl⟩ := Pool.lighter_take h hstaffed hstop hrunning hitems
      have hpool : (s.step .take).desk.office.pool = p' := by
        simp only [step, ht, Option.map_some, Option.getD_some]
      exact goOn .take (.inl rfl) (by rwa [hpool]) (by simp only [step])

end Scene

end Moderation.Warning
