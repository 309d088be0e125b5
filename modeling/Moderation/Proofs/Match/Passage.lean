import Mathlib.Data.List.Induction
import Moderation.Proofs.Match.Registry
/-!
The matches on their way: what every step does to those that wait to be saved and those that wait to
be announced, and from it where the matches are after a run.
-/
namespace Moderation.Match
open Notice Number Time Worker
open scoped List

namespace Registry

def seals (r : Registry) (steps : List Step) : List Sealed :=
  if r.isGone then [] else r.book.sealedBy steps

theorem seals_nil (r : Registry) : r.seals [] = [] := by
  simp [seals, Book.sealedBy]

/-- The pool is sound, and hands without a job have not begun. -/
structure Tidy (r : Registry) : Prop where
  sound : r.office.pool.Sound
  phases : ∀ h, h ∉ r.office.pool.running.map (·.1) → r.phases h = .untouched

structure Due (r : Registry) (d : Deed) : Prop where
  saved : d.act.mark = .saved → d.result ∈ r.unsaved
  announced : d.act.mark = .announced ∨ d.act.mark = .silenced → d.result ∈ r.unannounced
  notice : ∀ n, d.act = .announced n → ∃ now, announcement r.office.externalUrl now d.result = .ok n

theorem due_of_mark {r : Registry} {d : Deed}
    (hd : d.act.mark = .sealed ∨ d.act.mark = .dropped) : r.Due d where
  saved hk := by simp [hk] at hd
  announced hk := by
    obtain hk | hk := hk <;> simp [hk] at hd
  notice n hn := by simp [hn, Act.mark] at hd

theorem due_lostBy (r : Registry) (p p' : Pool Job) : ∀ d ∈ lostBy p p', r.Due d := by
  intro d hd
  obtain ⟨m, -, rfl⟩ := List.mem_map.1 hd
  exact due_of_mark (.inr rfl)

/-- What a step does: matches come, get on, and go, one deed for each. -/
structure Steps (r r' : Registry) (s? : Option Step) (ds : List Deed) : Prop where
  tidy : r'.Tidy
  log : r'.log = r.log ++ ds
  due : ∀ d ∈ ds, r.Due d
  sealed : ∀ later, r.seals (s?.toList ++ later) = marked .sealed ds ++ r'.seals later
  unsaved : r.unsaved ++ marked .sealed ds ~
    marked .dropped ds ++ marked .saved ds ++ r'.unsaved
  unannounced : r.unannounced ++ marked .saved ds ~
    marked .announced ds ++ marked .silenced ds ++ r'.unannounced
  finished : r'.finished = r.finished ++ marked .saved ds
  announcements : r'.announcements = r.announcements ++ ds.filterMap (·.act.notice?)
  externalUrl : r'.office.externalUrl = r.office.externalUrl

section
variable {r : Registry} {h : Hand} {m : Sealed}

theorem mem_unsaved (hr : r.Tidy) (hm : r.save? h = some m) (hphase : (r.phases h).isSaved = false) :
    m ∈ r.unsaved := by
  have hperm := under_job r.phases (!·.isSaved) hr.sound (job?_of_save? hm)
  refine List.mem_append_right _ (hperm.mem_iff.2 ?_)
  simp [hphase, Job.match?]

theorem mem_unannounced (hr : r.Tidy) (hm : r.save? h = some m)
    (hphase : (r.phases h).isSaved = true) : m ∈ r.unannounced := by
  have hperm := under_job r.phases (·.isSaved) hr.sound (job?_of_save? hm)
  refine hperm.mem_iff.2 ?_
  simp [hphase, Job.match?]

theorem tidy_enter (hr : r.Tidy) (hm : r.save? h = some m) (phase : Phase) :
    (r.enter h phase).Tidy := by
  refine ⟨hr.sound, fun h' hh' => ?_⟩
  have hne : h' ≠ h := by
    rintro rfl
    exact hh' (Pool.mem_of_job? (job?_of_save? hm))
  exact (Function.update_of_ne hne ..).trans (hr.phases h' hh')

/-- The match of a hand goes from one phase to another. -/
theorem under_enter (hr : r.Tidy) (hm : r.save? h = some m) (phase : Phase) (f : Phase → Bool) :
    under r.phases f r.office.pool.running ++ (if f phase then [m] else []) ~
      (if f (r.phases h) then [m] else []) ++
        under (r.enter h phase).phases f r.office.pool.running := by
  have hj := job?_of_save? hm
  have hbefore := under_job r.phases f hr.sound hj
  have hafter := under_update r.phases f hr.sound hj phase
  refine (hbefore.append_right _).trans ?_
  rw [List.append_assoc]
  exact (List.perm_append_comm.trans hafter.symm).append_left _

theorem steps_self (hr : r.Tidy) : r.Steps r none [] where
  tidy := hr
  log := by simp
  due := List.forall_mem_nil _
  sealed _ := rfl
  unsaved := by simp
  unannounced := by simp
  finished := by simp
  announcements := by simp
  externalUrl := rfl

/-- A step that nothing but the services and the outbox feels, and these not where matches are
concerned. -/
theorem steps_around (services : Services) (outgoing : Outbox) (sent : List Notice) (hr : r.Tidy)
    (hfinished : services.stored.finished = r.finished)
    (hnotices : (sent ++ outgoing.items).filter (·.channel = .matchLog) = r.announcements) :
    r.Steps { r with office.services := services, office.outgoing := outgoing, sent } none [] where
  tidy := ⟨hr.sound, hr.phases⟩
  log := by simp
  due := List.forall_mem_nil _
  sealed _ := rfl
  unsaved := by simp [unsaved]
  unannounced := by simp [unannounced]
  finished := by simpa [finished] using hfinished
  announcements := by simpa [announcements] using hnotices
  externalUrl := rfl

/-- Jobs begin to run, and others come, without a match for more. -/
theorem steps_grow {pool : Pool Job} (come : List (Hand × Job)) (hr : r.Tidy) (hpool : pool.Sound)
    (hrunning : pool.running = r.office.pool.running ++ come)
    (hcome : under r.phases (·.isSaved) come = [])
    (hitems : r.office.pool.queue.items.filterMap Job.match? ~
      pool.queue.items.filterMap Job.match? ++ under r.phases (!·.isSaved) come) :
    r.Steps { r with office.pool := pool } none [] where
  tidy := ⟨hpool, fun h hh => hr.phases h fun hmem => hh (by simp [hrunning, hmem])⟩
  log := by simp
  due := List.forall_mem_nil _
  sealed _ := rfl
  unsaved := by
    have hall := (hitems.append_right (under r.phases (!·.isSaved) r.office.pool.running)).trans
      (.of_eq (List.append_assoc ..))
    simp only [unsaved, hrunning, under_append, marked_nil, List.append_nil, List.nil_append]
    exact hall.trans (List.perm_append_comm.append_left _)
  unannounced := by simp [unannounced, hrunning, under_append, hcome]
  finished := by simp [finished]
  announcements := by simp [announcements]
  externalUrl := rfl

theorem steps_take (hr : r.Tidy) : r.Steps (r.step .take) none [] := by
  simp only [step]
  split
  next hand job pool ht =>
    have hgoes := Pool.goes_take hr.sound ht
    obtain ⟨hrunning, hitems, -, -⟩ := Pool.take?_eq_some ht
    have hhands := hgoes.sound.hands
    rw [hrunning, List.map_append] at hhands
    have hphase : r.phases hand = .untouched :=
      hr.phases hand fun hmem => (List.nodup_append'.1 hhands).2.2 hmem (by simp)
    refine steps_grow _ hr hgoes.sound hrunning ?_ ?_
    · simp [under_singleton, hphase]
    · rw [under_singleton, hphase, hitems, List.filterMap_cons]
      cases job.match? with
      | none => simp
      | some m => simpa using (List.perm_append_singleton m _).symm
  next => exact steps_self hr

theorem steps_place (hr : r.Tidy) (j : Job) (hj : j.match? = none) :
    r.Steps (r.step (.place j hj)) none [] := by
  have hsound : (r.office.pool.place j).Sound := by
    obtain hgoes | ⟨-, hgoes⟩ := Pool.goes_put hr.sound j.isVital j
    · exact hgoes.sound
    · exact hgoes.sound
  unfold Pool.place at hsound
  simp only [step, Pool.place]
  obtain ⟨q, hq, hput⟩ | ⟨-, hput⟩ | ⟨-, hput⟩ := r.office.pool.put_cases j.isVital j
  · rw [hput] at hsound ⊢
    refine steps_grow [] hr hsound (by simp) rfl ?_
    simp [(Queue.items_offer hq).1, hj, under]
  · rw [hput] at hsound ⊢
    exact steps_grow _ hr hsound rfl (by simp [under_singleton, hj])
      (by simp [under_singleton, hj])
  · rw [hput]
    exact steps_self hr

theorem steps_call (hr : r.Tidy) (h : Hand) (clock : Span) :
    r.Steps (r.step (.call h clock)) none [] := by
  simp only [step]
  split
  next m hm hphase =>
    have henter := under_enter hr hm (.calling (r.office.services.archive.begin clock))
    have hunsaved := henter (!·.isSaved)
    have hunannounced := henter (·.isSaved)
    simp only [hphase, Phase.isSaved_untouched, Phase.isSaved_calling] at hunsaved hunannounced
    refine { steps_self hr with
      tidy := tidy_enter hr hm _, sealed := fun _ => rfl, unsaved := ?_, unannounced := ?_ }
    · have hsame := (List.perm_append_left_iff _).1 (List.perm_append_comm.trans hunsaved)
      simpa [unsaved] using hsame.append_left _
    · simpa [unannounced] using hunannounced
  next => exact steps_self hr

theorem steps_post (hr : r.Tidy) (n : Notice) (hn : n.channel ≠ .matchLog) :
    r.Steps (r.step (.post n hn)) none [] := by
  refine steps_around r.office.services _ _ hr rfl ?_
  rw [List.filter_append, Act.filter_post, announcements, List.filter_append]
  simp [hn]

theorem steps_send (hr : r.Tidy) : r.Steps (r.step .send) none [] := by
  simp only [step]
  split
  next n outgoing hq =>
    refine steps_around r.office.services _ _ hr rfl ?_
    simp [announcements, (Queue.items_take? hq).1]
  next => exact steps_self hr

theorem steps_change (hr : r.Tidy) (s : Services) : r.Steps (r.step (.change s)) none [] :=
  steps_around _ r.office.outgoing r.sent hr rfl rfl

theorem under_release {j : Job} {o : Office} (hr : r.Tidy)
    (hj : r.office.pool.job? h = some j) (hsheds : r.office.pool.Sheds o.pool (· ≠ h))
    (f : Phase → Bool) (ds : List Deed) : under r.phases f r.office.pool.running ~
      (if f (r.phases h) then j.match?.toList else []) ++
        under (r.release h o ds).phases f (r.release h o ds).office.pool.running := by
  have hphases := under_update_of_ne r.phases f h .untouched
    r.office.pool.running
  rw [← hsheds.running] at hphases
  have hjob := under_job r.phases f hr.sound hj
  rw [← hsheds.running, ← hphases] at hjob
  exact hjob

/-- A hand that is done with its job leaves a deed about its match, if that is what the job is
about. -/
theorem steps_release {j : Job} {o : Office} (ds : List Deed) (hr : r.Tidy)
    (hj : r.office.pool.job? h = some j)
    (hsheds : r.office.pool.Sheds o.pool (· ≠ h)) (hdue : ∀ d ∈ ds, r.Due d)
    (hnone : marked .sealed ds = [] ∧ marked .saved ds = [])
    (hdropped : marked .dropped ds = if (r.phases h).isSaved then [] else j.match?.toList)
    (hspoken : marked .announced ds ++ marked .silenced ds =
      if (r.phases h).isSaved then j.match?.toList else [])
    (hfinished : o.services.stored.finished = r.finished)
    (hnotices : (r.sent ++ o.outgoing.items).filter (·.channel = .matchLog) =
      r.announcements ++ ds.filterMap (·.act.notice?))
    (hurl : o.externalUrl = r.office.externalUrl) :
    r.Steps (r.release h o ds) none (ds ++ lostBy r.office.pool o.pool) where
  tidy := by
    refine ⟨hsheds.sound, fun h' hh' => ?_⟩
    by_cases hne : h' = h
    · subst hne
      exact Function.update_self ..
    · refine (Function.update_of_ne hne ..).trans (hr.phases h' fun hmem => hh' ?_)
      obtain ⟨x, hx, rfl⟩ := List.mem_map.1 hmem
      change x.1 ∈ o.pool.running.map (·.1)
      rw [hsheds.running]
      exact List.mem_map_of_mem (List.mem_filter.2 ⟨hx, decide_eq_true hne⟩)
  log := rfl
  due d hd := by
    obtain hd | hd := List.mem_append.1 hd
    · exact hdue d hd
    · exact due_lostBy r _ _ d hd
  sealed _ := by
    simp only [marked_append, hnone, marked_lostBy]
    rfl
  unsaved := by
    have hjob := under_release hr hj hsheds (!·.isSaved) ds
    have hitems := congrArg (List.filterMap Job.match?) hsheds.items
    rw [List.filterMap_append] at hitems
    refine List.perm_iff_count.2 fun a => ?_
    have hcount := hjob.count_eq a
    have hwait := congrArg (List.count a) hitems
    simp only [unsaved, marked_append, marked_lostBy, hnone, hdropped]
    cases hphase : (r.phases h).isSaved <;>
      simp [hphase, List.count_append] at hcount hwait ⊢ <;> omega
  unannounced := by
    have hjob := under_release hr hj hsheds (·.isSaved) ds
    simp only [unannounced, marked_append, marked_lostBy, hnone]
    simpa [← hspoken] using hjob
  finished := by simp [finished, hnone, marked_lostBy, hfinished]
  announcements := by
    have hlost : (lostBy r.office.pool o.pool).filterMap (·.act.notice?) = [] := by
      simp [lostBy, Act.notice?]
    rw [List.filterMap_append, hlost, List.append_nil, ← hnotices]
    rfl
  externalUrl := hurl

theorem steps_saved {a : Archive} (hr : r.Tidy) (hm : r.save? h = some m)
    (hphase : (r.phases h).isSaved = false) (ha : a.store.finished = r.finished ++ [m]) :
    r.Steps (r.answered h m (.ok (), a)) none [⟨.saved, m⟩] := by
  have hunsaved := under_enter hr hm .saved (!·.isSaved)
  have hunannounced := under_enter hr hm .saved (·.isSaved)
  simp only [hphase, Phase.isSaved_saved] at hunsaved hunannounced
  constructor
  case tidy => exact ⟨hr.sound, (tidy_enter hr hm .saved).phases⟩
  case log => rfl
  case due =>
    refine List.forall_mem_singleton.2 ⟨fun _ => mem_unsaved hr hm hphase, ?_, by simp⟩
    simp [Act.mark]
  case sealed =>
    intro later
    simp [marked_cons, Act.mark]
    rfl
  case unsaved =>
    have hwait := hunsaved.append_left (r.office.pool.queue.items.filterMap Job.match?)
    have hall := hwait.trans (List.perm_append_comm_assoc ..)
    simpa [marked_cons, Act.mark, unsaved, answered] using hall
  case unannounced => simpa [marked_cons, Act.mark, unannounced, answered] using hunannounced
  case finished => simpa [marked_cons, Act.mark, finished, answered] using ha
  case announcements => simp [announcements, answered, Act.notice?, enter]
  case externalUrl => rfl

theorem steps_answer (hr : r.Tidy) (h : Hand) (clock : Span) :
    ∃ ds, r.Steps (r.step (.answer h clock)) none ds := by
  simp only [step]
  split
  next m c hm hphase =>
    split
    · have hj := job?_of_save? hm
      have hunsaved : (r.phases h).isSaved = false := by rw [hphase]; rfl
      rcases hwrite : r.office.services.archive.write c (.saveMatch m) with ⟨⟨e⟩ | ⟨⟨⟩⟩, a⟩
      · refine ⟨_, steps_release [⟨.failed e, m⟩] hr hj (Pool.sheds_finish hr.sound hj) ?_
          ?_ ?_ ?_ rfl ?_ rfl⟩
        · exact List.forall_mem_singleton.2 (due_of_mark (.inr rfl))
        · simp [marked_cons, Act.mark]
        · simp [marked_cons, Act.mark, hunsaved, Job.match?]
        · simp [marked_cons, Act.mark, hunsaved]
        · simp [announcements, Act.notice?]
      · exact ⟨_, steps_saved hr hm hunsaved (Archive.finished_of_write hwrite)⟩
    · exact ⟨[], steps_self hr⟩
  next => exact ⟨[], steps_self hr⟩

/-- A hand that has saved its match is done once it has said so, or failed to. -/
theorem steps_spoken {a : Act} {o : Office} (hr : r.Tidy) (hm : r.save? h = some m)
    (hphase : r.phases h = .saved) (hsheds : r.office.pool.Sheds o.pool (· ≠ h))
    (ha : a.mark = .announced ∨ a.mark = .silenced)
    (hnotice : ∀ n, a = .announced n → ∃ now, announcement r.office.externalUrl now m = .ok n)
    (hfinished : o.services.stored.finished = r.finished)
    (hnotices : (r.sent ++ o.outgoing.items).filter (·.channel = .matchLog) =
      r.announcements ++ a.notice?.toList) (hurl : o.externalUrl = r.office.externalUrl) :
    r.Steps (r.release h o [⟨a, m⟩]) none ([⟨a, m⟩] ++ lostBy r.office.pool o.pool) := by
  have hsaved : (r.phases h).isSaved = true := by rw [hphase]; rfl
  have hmarks : marked .sealed [⟨a, m⟩] = [] ∧ marked .saved [⟨a, m⟩] = [] ∧
      marked .dropped [⟨a, m⟩] = [] ∧
      marked .announced [⟨a, m⟩] ++ marked .silenced [⟨a, m⟩] = [m] := by
    obtain ha | ha := ha <;> simp [marked_cons, ha]
  obtain ⟨hsealed, hnosave, hdropped, hspoken⟩ := hmarks
  refine steps_release _ hr (job?_of_save? hm) hsheds ?_ ⟨hsealed, hnosave⟩ ?_ ?_ hfinished ?_ hurl
  · simp only [List.forall_mem_singleton]
    refine ⟨fun hmark => ?_, fun _ => mem_unannounced hr hm hsaved, hnotice⟩
    simp [hmark] at ha
  · rw [hdropped, if_pos hsaved]
  · rw [hspoken, if_pos hsaved]
    rfl
  · rw [hnotices]
    cases hn : a.notice? <;> simp [hn]

theorem steps_announce (hr : r.Tidy) (h : Hand) (now : Instant) :
    ∃ ds, r.Steps (r.step (.announce h now)) none ds := by
  simp only [step]
  split
  next m hm hphase =>
    have hj := job?_of_save? hm
    cases hnotice : announcement r.office.externalUrl now m with
    | error overflow =>
      refine ⟨_, steps_spoken hr hm hphase (Pool.sheds_lose hr.sound hj) (.inr rfl) (by simp) rfl
        ?_ rfl⟩
      simp [announcements, Act.notice?]
    | ok n =>
      refine ⟨_, steps_spoken hr hm hphase (Pool.sheds_finish hr.sound hj) (Act.mark_ofPost ..)
        (fun n' hn' => ⟨now, ?_⟩) rfl ?_ rfl⟩
      · rw [Act.eq_of_ofPost hn']
        exact hnotice
      · have hpost := Act.filter_post r.office.outgoing n
        rw [if_pos (channel_of_announcement hnotice)] at hpost
        rw [List.filter_append, announcements, List.filter_append, List.append_assoc, ← hpost]
        rfl
  next => exact ⟨[], steps_self hr⟩

theorem steps_carryOut (hr : r.Tidy) (h : Hand) (now : Instant) :
    ∃ ds, r.Steps (r.step (.carryOut h now)) none ds := by
  simp only [step]
  split
  next j hj =>
    split
    · exact ⟨[], steps_self hr⟩
    next hmatch =>
      have hnone : j.match? = none := by simpa using hmatch
      obtain ⟨stored, sent, hfinished, hcarry⟩ := carryOut_of_match? hnone r.office now h
      rw [hcarry]
      refine ⟨_, steps_release [] hr hj (Pool.sheds_finish hr.sound hj) (List.forall_mem_nil _)
        ⟨rfl, rfl⟩ ?_ ?_ hfinished ?_ rfl⟩
      · simp [hnone]
      · simp [hnone]
      · simp [announcements]
  next => exact ⟨[], steps_self hr⟩

theorem steps_stop (hr : r.Tidy) :
    r.Steps (r.step .stop) none (lostBy r.office.pool r.office.pool.stop) := by
  have hsheds := Pool.sheds_stop hr.sound
  have hrunning : r.office.pool.stop.running = r.office.pool.running := by
    rw [hsheds.running, List.filter_true]
  constructor
  case tidy => exact ⟨hsheds.sound, fun h hh => hr.phases h (hrunning ▸ hh)⟩
  case log => rfl
  case due => exact due_lostBy r _ _
  case sealed =>
    intro later
    rw [marked_lostBy]
    rfl
  case unsaved =>
    have hitems := congrArg (List.filterMap Job.match?) hsheds.items
    rw [List.filterMap_append] at hitems
    simp [unsaved, step, marked_lostBy, hrunning, ← hitems]
  case unannounced => simp [unannounced, step, marked_lostBy, hrunning]
  case finished => simp [finished, step, marked_lostBy]
  case announcements => simp [announcements, step, lostBy, Act.notice?]
  case externalUrl => rfl

/-- The job of a match that is sealed waits in the queue, or is refused at once. -/
theorem steps_submit {s : Step} {b : Book} (hr : r.Tidy) (hgone : r.isGone = false)
    (hsealed : ∀ later, r.seals ([s] ++ later) = [m] ++ b.sealedBy later) :
    ∃ ds, r.Steps { r with
      book := b
      office := r.office.place (.saveMatch m)
      log := r.log ++ r.submitted m } (some s) ds := by
  refine ⟨r.submitted m, ?_⟩
  cases hq : r.office.pool.queue.offer (.saveMatch m) with
  | ok q =>
    obtain ⟨hplace, hds⟩ := submit_of_ok hq
    rw [hplace, hds]
    constructor
    case tidy => exact ⟨(Pool.goes_enqueue hr.sound hq).sound, hr.phases⟩
    case log => rfl
    case due => exact List.forall_mem_singleton.2 (due_of_mark (.inl rfl))
    case sealed => simpa [marked_cons, Act.mark, seals, hgone] using hsealed
    case unsaved =>
      simp only [unsaved, (Queue.items_offer hq).1, List.filterMap_append]
      simpa [marked_cons, Act.mark, Job.match?] using
        (List.perm_append_singleton m _).append_left _
    case unannounced => simp [unannounced, marked_cons, Act.mark]
    case finished => simp [finished, marked_cons, Act.mark]
    case announcements => simp [announcements, Act.notice?]
    case externalUrl => rfl
  | error cause =>
    obtain ⟨hplace, hds⟩ := submit_of_error hq
    rw [hplace, hds]
    constructor
    case tidy => exact ⟨hr.sound, hr.phases⟩
    case log => rfl
    case due =>
      exact List.forall_mem_cons.2 ⟨due_of_mark (.inl rfl),
        List.forall_mem_singleton.2 (due_of_mark (.inr rfl))⟩
    case sealed => simpa [marked_cons, Act.mark, seals, hgone] using hsealed
    case unsaved =>
      simp only [marked_cons]
      exact List.perm_append_singleton m _
    case unannounced => simp [unannounced, marked_cons, Act.mark]
    case finished => simp [finished, marked_cons, Act.mark]
    case announcements => simp [announcements, Act.notice?]
    case externalUrl => rfl

theorem steps_handle (hr : r.Tidy) (s : Step) : ∃ ds, r.Steps (r.step (.handle s)) (some s) ds := by
  obtain ⟨hgone, hstep⟩ | ⟨hgone, ⟨o, hb, hstep⟩ | ⟨t, b, hb, ⟨ht, hstep⟩ | ⟨m, ht, hstep⟩⟩⟩ :=
    r.step_handle_cases s
  · rw [hstep]
    refine ⟨[], { steps_self hr with sealed := fun later => ?_ }⟩
    simp [seals, hgone]
  · rw [hstep]
    refine ⟨[], { steps_self hr with tidy := ⟨hr.sound, hr.phases⟩, sealed := fun later => ?_ }⟩
    simp [seals, hgone, Book.sealedBy, hb]
  · rw [hstep]
    refine ⟨[], { steps_self hr with tidy := ⟨hr.sound, hr.phases⟩, sealed := fun later => ?_ }⟩
    simp [seals, hgone, Book.sealedBy, hb, ht]
  · rw [hstep]
    refine steps_submit hr hgone fun later => ?_
    simp [seals, hgone, Book.sealedBy, hb, ht]

/-- Every step is a step of matches. -/
theorem steps_step (hr : r.Tidy) (move : Move) :
    ∃ ds, r.Steps (r.step move) move.step? ds := by
  cases move with
  | handle s => exact steps_handle hr s
  | take => exact ⟨[], steps_take hr⟩
  | call h clock => exact ⟨[], steps_call hr h clock⟩
  | answer h clock => exact steps_answer hr h clock
  | announce h now => exact steps_announce hr h now
  | place j hj => exact ⟨[], steps_place hr j hj⟩
  | carryOut h now => exact steps_carryOut hr h now
  | post n hn => exact ⟨[], steps_post hr n hn⟩
  | send => exact ⟨[], steps_send hr⟩
  | change s => exact ⟨[], steps_change hr s⟩
  | stop => exact ⟨_, steps_stop hr⟩

end

theorem mem_log_run {r : Registry} {d : Deed} (hr : r.Tidy) (moves : List Move) (hd : d ∈ r.log) :
    d ∈ (r.run moves).log := by
  induction moves generalizing r with
  | nil => exact hd
  | cons move moves ih =>
    obtain ⟨ds, hs⟩ := steps_step hr move
    exact ih hs.tidy (hs.log ▸ List.mem_append_left ds hd)

/-- A match is announced, or silenced, only after it has been saved, and saved only after it has
been sealed. -/
def Ordered (log : List Deed) : Prop :=
  ∀ before d after, log = before ++ d :: after →
    (d.act.mark = .saved → d.result ∈ marked .sealed before) ∧
    (d.act.mark = .announced ∨ d.act.mark = .silenced → d.result ∈ marked .saved before)

theorem mem_marked_append {k : Mark} {ds : List Deed} {m : Sealed} (h : m ∈ marked k ds)
    (es : List Deed) : m ∈ marked k (ds ++ es) := by
  rw [marked_append]
  exact List.mem_append_left _ h

theorem Ordered.append {log ds : List Deed} (h : Ordered log)
    (hds : ∀ d ∈ ds, (d.act.mark = .saved → d.result ∈ marked .sealed log) ∧
      (d.act.mark = .announced ∨ d.act.mark = .silenced → d.result ∈ marked .saved log)) :
    Ordered (log ++ ds) := by
  intro before d after heq
  obtain ⟨mid, rfl, hds'⟩ | ⟨mid, rfl, hlog⟩ := List.append_eq_append_iff.1 heq
  · have hd := hds d (by simp [hds'])
    exact ⟨fun hk => mem_marked_append (hd.1 hk) mid, fun hk => mem_marked_append (hd.2 hk) mid⟩
  · cases mid with
    | nil =>
      rw [List.nil_append] at hlog
      have hd := hds d (hlog ▸ List.mem_cons_self)
      rwa [List.append_nil] at hd
    | cons x mid =>
      obtain ⟨rfl, rfl⟩ := List.cons.inj hlog
      exact h before d mid rfl

/-- What comes to a place has gone on from it in one of two ways, or is there. -/
theorem balance_append {came left passed there come leave pass there' : List Sealed}
    (h : came ~ left ++ passed ++ there) (hs : there ++ come ~ leave ++ pass ++ there') :
    came ++ come ~ left ++ leave ++ (passed ++ pass) ++ there' := by
  refine List.perm_iff_count.2 fun a => ?_
  have hbefore := h.count_eq a
  have hstep := hs.count_eq a
  simp only [List.count_append] at hbefore hstep ⊢
  omega

/-- What holds of a registry after a run. Every match that was sealed has been dropped, has been
saved or is on its way; every one that was saved has been announced, has been silenced or is on its
way. -/
structure Keeps (r : Registry) (services : Services) (externalUrl : String)
    (steps : List Step) : Prop where
  tidy : r.Tidy
  sealed : ∀ later, Book.empty.sealedBy (steps ++ later) = marked .sealed r.log ++ r.seals later
  unsaved : marked .sealed r.log ~ marked .dropped r.log ++ marked .saved r.log ++ r.unsaved
  unannounced : marked .saved r.log ~
    marked .announced r.log ++ marked .silenced r.log ++ r.unannounced
  finished : r.finished = services.stored.finished ++ marked .saved r.log
  announcements : r.announcements = r.log.filterMap (·.act.notice?)
  url : r.office.externalUrl = externalUrl
  ordered : Ordered r.log
  notices : ∀ d ∈ r.log, ∀ n, d.act = .announced n →
    ∃ now, announcement externalUrl now d.result = .ok n

namespace Keeps
variable {r : Registry} {services : Services} {externalUrl : String} {steps : List Step}

theorem sealedBy (h : r.Keeps services externalUrl steps) :
    Book.empty.sealedBy steps = marked .sealed r.log := by
  have hsealed := h.sealed []
  rwa [List.append_nil, seals_nil, List.append_nil] at hsealed

theorem step (h : r.Keeps services externalUrl steps) (move : Move) :
    (r.step move).Keeps services externalUrl (steps ++ move.step?.toList) := by
  obtain ⟨ds, hs⟩ := steps_step h.tidy move
  constructor
  case tidy => exact hs.tidy
  case sealed =>
    intro later
    rw [List.append_assoc, h.sealed, hs.sealed, hs.log, marked_append, List.append_assoc]
  case unsaved =>
    rw [hs.log, marked_append, marked_append, marked_append]
    exact balance_append h.unsaved hs.unsaved
  case unannounced =>
    rw [hs.log, marked_append, marked_append, marked_append]
    exact balance_append h.unannounced hs.unannounced
  case finished => rw [hs.finished, h.finished, hs.log, marked_append, List.append_assoc]
  case announcements => rw [hs.announcements, h.announcements, hs.log, List.filterMap_append]
  case url => rw [hs.externalUrl, h.url]
  case ordered =>
    rw [hs.log]
    refine h.ordered.append fun d hd => ⟨fun hk => ?_, fun hk => ?_⟩
    · exact h.unsaved.mem_iff.2 (List.mem_append_right _ ((hs.due d hd).saved hk))
    · exact h.unannounced.mem_iff.2 (List.mem_append_right _ ((hs.due d hd).announced hk))
  case notices =>
    intro d hd n hn
    rw [hs.log] at hd
    obtain hd | hd := List.mem_append.1 hd
    · exact h.notices d hd n hn
    · rw [← h.url]
      exact (hs.due d hd).notice n hn

end Keeps

theorem keeps_start (services : Services) (workers room mail : Nat) (externalUrl : String) :
    (start services workers room mail externalUrl).Keeps services externalUrl [] := by
  have hunsaved : (start services workers room mail externalUrl).unsaved = [] := by
    cases workers <;> rfl
  constructor
  case tidy => exact ⟨Pool.sound_start .., fun _ _ => rfl⟩
  case sealed =>
    intro later
    rfl
  case unsaved => exact .of_eq hunsaved.symm
  case unannounced => exact .refl []
  case finished => exact (List.append_nil _).symm
  case announcements => rfl
  case url => rfl
  case ordered =>
    intro before d after heq
    cases before <;> cases heq
  case notices => exact List.forall_mem_nil _

theorem keeps_run (services : Services) (workers room mail : Nat) (externalUrl : String)
    (moves : List Move) :
    ((start services workers room mail externalUrl).run moves).Keeps services externalUrl
      (moves.filterMap Move.step?) := by
  induction moves using List.reverseRecOn with
  | nil => exact keeps_start ..
  | append_singleton moves move ih =>
    rw [run_concat, filterMap_concat]
    exact ih.step move

end Registry
end Moderation.Match
