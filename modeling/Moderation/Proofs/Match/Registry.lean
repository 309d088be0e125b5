import Mathlib.Logic.Function.Basic
import Moderation.Match.Summarizer
import Moderation.Proofs.Match.Rounds
import Moderation.Proofs.Worker.Pool
import Moderation.Proofs.Worker.Saving
/-!
A summarizer at work. Workers save the matches that it seals, each in a call to the store that takes
its time, and announce them afterwards; other tasks use the same workers, store and outbox
meanwhile. A hand that is not disturbed does what it does at once.
-/
namespace Moderation
open Notice Number Time Worker
open scoped List

namespace Match

inductive Phase where
  | untouched
  | calling (c : Call)
  | saved

def Phase.isSaved : Phase → Bool
  | saved => true
  | _ => false

@[simp] theorem Phase.isSaved_untouched : untouched.isSaved = false := rfl

@[simp] theorem Phase.isSaved_calling (c : Call) : (calling c).isSaved = false := rfl

@[simp] theorem Phase.isSaved_saved : saved.isSaved = true := rfl

/-- What can happen to a match that is sealed. The announcement of a match collapses if it
overflows. -/
inductive Act where
  | sealed
  | refused (cause : Refusal)
  | lost
  | failed (cause : StoreError)
  | saved
  | announced (n : Notice)
  | withheld (cause : Refusal)
  | collapsed
  deriving DecidableEq

inductive Mark where
  | sealed
  | dropped
  | saved
  | announced
  | silenced
  deriving DecidableEq

namespace Act

def mark : Act → Mark
  | sealed => .sealed
  | refused _ => .dropped
  | lost => .dropped
  | failed _ => .dropped
  | saved => .saved
  | announced _ => .announced
  | withheld _ => .silenced
  | collapsed => .silenced

def notice? : Act → Option Notice
  | announced n => some n
  | _ => none

def ofCall (s : Services) (c : Call) : Act :=
  if !c.isInTime then .failed (.timeout s.limit)
  else if s.storeFault.failing then .failed Fault.unavailable
  else .saved

def ofPost (o : Outbox) (n : Notice) : Act :=
  match Queue.offer o n with
  | .ok _ => .announced n
  | .error cause => .withheld cause

end Act

theorem channel_of_announcement {externalUrl : String} {now : Instant} {m : Sealed} {n : Notice}
    (h : announcement externalUrl now m = .ok n) : n.channel = .matchLog := by
  obtain ⟨e, -, h⟩ := bind_eq_ok h
  cases h
  rfl

/-- A notice that is posted stands at the end of the outbox, or nowhere. -/
theorem Act.filter_post (o : Outbox) (n : Notice) :
    (o.post n).items.filter (·.channel = .matchLog) = o.items.filter (·.channel = .matchLog) ++
      if n.channel = .matchLog then (ofPost o n).notice?.toList else [] := by
  unfold Outbox.post Outbox.enqueue ofPost
  cases ho : Queue.offer o n with
  | ok q =>
    by_cases hn : n.channel = .matchLog <;> simp [(Queue.items_offer ho).1, hn, notice?]
  | error cause => simp [notice?]

theorem Act.mark_ofPost (o : Outbox) (n : Notice) :
    (ofPost o n).mark = .announced ∨ (ofPost o n).mark = .silenced := by
  unfold ofPost
  split
  · exact .inl rfl
  · exact .inr rfl

theorem Act.eq_of_ofPost {o : Outbox} {n n' : Notice} (h : ofPost o n = .announced n') : n' = n := by
  unfold ofPost at h
  split at h <;> cases h
  rfl

structure Deed where
  act : Act
  result : Sealed

def marked (k : Mark) (ds : List Deed) : List Sealed :=
  (ds.filter (·.act.mark = k)).map (·.result)

@[simp] theorem marked_nil (k : Mark) : marked k [] = [] := rfl

@[simp] theorem marked_append (k : Mark) (ds es : List Deed) :
    marked k (ds ++ es) = marked k ds ++ marked k es := by
  simp [marked]

theorem marked_cons (k : Mark) (d : Deed) (ds : List Deed) :
    marked k (d :: ds) = (if d.act.mark = k then [d.result] else []) ++ marked k ds := by
  by_cases h : d.act.mark = k <;> simp [marked, h]

def lostBy (p p' : Pool Job) : List Deed :=
  ((p.shed p').filterMap Job.match?).map fun m => ⟨.lost, m⟩

theorem marked_lostBy (k : Mark) (p p' : Pool Job) :
    marked k (lostBy p p') = if k = .dropped then (p.shed p').filterMap Job.match? else [] := by
  unfold marked lostBy
  rw [List.filter_map]
  by_cases h : k = .dropped
  · subst h
    simp [Function.comp_def, Act.mark]
  · simp [Function.comp_def, Act.mark, h, Ne.symm h]

def under (phases : Hand → Phase) (f : Phase → Bool) (rs : List (Hand × Job)) : List Sealed :=
  (rs.filter fun x => f (phases x.1)).filterMap (·.2.match?)

section
variable (phases : Hand → Phase) (f : Phase → Bool)

theorem under_append (rs ss : List (Hand × Job)) :
    under phases f (rs ++ ss) = under phases f rs ++ under phases f ss := by
  simp [under]

theorem under_singleton (h : Hand) (j : Job) :
    under phases f [(h, j)] = if f (phases h) then j.match?.toList else [] := by
  cases hf : f (phases h) <;> cases hm : j.match? <;> simp [under, hf, hm]

theorem under_congr {phases phases' : Hand → Phase} {rs : List (Hand × Job)}
    (h : ∀ x ∈ rs, phases x.1 = phases' x.1) : under phases f rs = under phases' f rs := by
  unfold under
  rw [List.filter_congr fun _ hx => congrArg f (h _ hx)]

theorem under_update_of_ne (h : Hand) (phase : Phase) (rs : List (Hand × Job)) :
    under (Function.update phases h phase) f (rs.filter (·.1 ≠ h)) =
      under phases f (rs.filter (·.1 ≠ h)) :=
  under_congr f fun _ hx =>
    Function.update_of_ne (of_decide_eq_true (List.mem_filter.1 hx).2) phase phases

/-- One hand enters a phase, and the others stay where they are. -/
theorem under_update {p : Pool Job} (hp : p.Sound) {h : Hand} {j : Job} (hj : p.job? h = some j)
    (phase : Phase) : under (Function.update phases h phase) f p.running ~
      (if f phase then j.match?.toList else []) ++ under phases f (p.running.filter (·.1 ≠ h)) := by
  have hperm := ((Pool.perm_of_job? hp hj).filter fun x =>
    f (Function.update phases h phase x.1)).filterMap (·.2.match?)
  have hfirst := under_singleton (Function.update phases h phase) f h j
  rw [Function.update_self] at hfirst
  rw [← under_update_of_ne phases f h phase, ← hfirst, ← under_append]
  exact hperm

theorem under_job {p : Pool Job} (hp : p.Sound) {h : Hand} {j : Job} (hj : p.job? h = some j) :
    under phases f p.running ~
      (if f (phases h) then j.match?.toList else []) ++
        under phases f (p.running.filter (·.1 ≠ h)) := by
  have hupdate := under_update phases f hp hj (phases h)
  rwa [Function.update_eq_self] at hupdate

end

/-- The live matches, the office with the jobs and services, and how far its hands have come. What
happened to the matches, and what was sent, is put down. -/
structure Registry where
  book : Book
  office : Office
  /-- Whether an overflow has ended the summarizer. -/
  isGone : Bool
  phases : Hand → Phase
  sent : List Notice
  log : List Deed

/-- What can happen. Other tasks hand in jobs and notices of other kinds, and may change the
services in any way, but for the matches saved. -/
inductive Move where
  | handle (s : Step)
  | take
  | call (h : Hand) (clock : Span)
  | answer (h : Hand) (clock : Span)
  | announce (h : Hand) (now : Instant)
  | place (j : Job) (hj : j.match? = none)
  | carryOut (h : Hand) (now : Instant)
  | post (n : Notice) (hn : n.channel ≠ .matchLog)
  | send
  | change (s : Services)
  | stop

def Move.step? : Move → Option Step
  | handle s => some s
  | _ => none

theorem filterMap_concat (moves : List Move) (move : Move) :
    (moves ++ [move]).filterMap Move.step? =
      moves.filterMap Move.step? ++ move.step?.toList := by
  cases hs : move.step? <;> simp [hs]

namespace Registry

def start (services : Services) (workers room mail : Nat) (externalUrl : String) : Registry :=
  ⟨.empty, .start services workers room mail externalUrl, false, fun _ => .untouched, [], []⟩

def save? (r : Registry) (h : Hand) : Option Sealed := (r.office.pool.job? h).bind Job.match?

def finished (r : Registry) : List Sealed := r.office.services.stored.finished

def announcements (r : Registry) : List Notice :=
  (r.sent ++ r.office.outgoing.items).filter (·.channel = .matchLog)

def unsaved (r : Registry) : List Sealed :=
  r.office.pool.queue.items.filterMap Job.match? ++
    under r.phases (!·.isSaved) r.office.pool.running

def unannounced (r : Registry) : List Sealed := under r.phases (·.isSaved) r.office.pool.running

def submitted (r : Registry) (m : Sealed) : List Deed :=
  ⟨.sealed, m⟩ :: match r.office.pool.submit (.saveMatch m) with
    | .ok _ => []
    | .error cause => [⟨.refused cause, m⟩]

def enter (r : Registry) (h : Hand) (phase : Phase) : Registry :=
  { r with phases := Function.update r.phases h phase }

@[simp] theorem enter_office (r : Registry) (h : Hand) (phase : Phase) :
    (r.enter h phase).office = r.office := rfl

def release (r : Registry) (h : Hand) (o : Office) (ds : List Deed) : Registry :=
  { r with
    office := o
    phases := Function.update r.phases h .untouched
    log := r.log ++ (ds ++ lostBy r.office.pool o.pool) }

@[simp] theorem release_office (r : Registry) (h : Hand) (o : Office) (ds : List Deed) :
    (r.release h o ds).office = o := rfl

def answered (r : Registry) (h : Hand) (m : Sealed) : Except StoreError Unit × Archive → Registry
  | (.ok (), a) => { r.enter h .saved with
      office.services.stored := a.store
      log := r.log ++ [⟨.saved, m⟩] }
  | (.error e, _) =>
    r.release h { r.office with pool := r.office.pool.finish h } [⟨.failed e, m⟩]

/-- A hand has made an announcement, or is lost with it. -/
def announced (r : Registry) (h : Hand) (m : Sealed) : Except Overflow Notice → Registry
  | .ok n => r.release h { r.office.post n with pool := r.office.pool.finish h }
      [⟨.ofPost r.office.outgoing n, m⟩]
  | .error _ => r.release h { r.office with pool := r.office.pool.lose h } [⟨.collapsed, m⟩]

def step (r : Registry) : Move → Registry
  | .handle s =>
    if r.isGone then r
    else match (Summarizer.mk r.book r.office).handle s.fresh s.now s.event with
      | .ok (t, after) => { r with
          book := after.book
          office := after.office
          log := r.log ++ match t.sealed? with
            | some m => r.submitted m
            | none => [] }
      | .error _ => { r with isGone := true }
  | .take => match r.office.pool.take? with
    | some (_, _, pool) => { r with office.pool := pool }
    | none => r
  | .call h clock => match r.save? h, r.phases h with
    | some _, .untouched => r.enter h (.calling (r.office.services.archive.begin clock))
    | _, _ => r
  | .answer h clock => match r.save? h, r.phases h with
    | some m, .calling c =>
      if c.isOver clock then r.answered h m (r.office.services.archive.write c (.saveMatch m)) else r
    | _, _ => r
  | .announce h now => match r.save? h, r.phases h with
    | some m, .saved => r.announced h m (announcement r.office.externalUrl now m)
    | _, _ => r
  | .place j _ => { r with office.pool := r.office.pool.place j }
  | .carryOut h now => match r.office.pool.job? h with
    | some j => if j.match?.isSome then r else r.release h (r.office.carryOut now h j) []
    | none => r
  | .post n _ => { r with office.outgoing := r.office.outgoing.post n }
  | .send => match r.office.outgoing.take? with
    | some (n, outgoing) => { r with office.outgoing := outgoing, sent := r.sent ++ [n] }
    | none => r
  | .change s => { r with office.services := { s with stored.finished := r.finished } }
  | .stop => { r with
      office.pool := r.office.pool.stop
      log := r.log ++ lostBy r.office.pool r.office.pool.stop }

section
variable {r : Registry} {h : Hand} {m : Sealed}

theorem job?_of_save? (hm : r.save? h = some m) :
    r.office.pool.job? h = some (.saveMatch m) := by
  obtain ⟨j, hj, hmatch⟩ := Option.bind_eq_some_iff.1 hm
  cases j <;> cases hmatch
  exact hj

theorem step_call (hm : r.save? h = some m) (hphase : r.phases h = .untouched) (clock : Span) :
    r.step (.call h clock) = r.enter h (.calling (r.office.services.archive.begin clock)) := by
  simp only [step, hm, hphase]

theorem step_answer {c : Call} {clock : Span} (hm : r.save? h = some m)
    (hphase : r.phases h = .calling c) (hover : c.isOver clock = true) :
    r.step (.answer h clock) =
      r.answered h m (r.office.services.archive.write c (.saveMatch m)) := by
  simp only [step, hm, hphase, hover, if_true]

theorem mem_log_step_answer {c : Call} {clock : Span} (hm : r.save? h = some m)
    (hphase : r.phases h = .calling c) (hover : c.isOver clock = true) :
    ⟨.ofCall r.office.services c, m⟩ ∈ (r.step (.answer h clock)).log := by
  rw [step_answer hm hphase hover]
  unfold Act.ofCall Archive.write Fault.answer
  cases hcall : c.isInTime <;> cases hfailing : r.office.services.storeFault.failing <;>
    simp [Services.archive, hfailing, Store.write, answered, release]

theorem step_announce (hm : r.save? h = some m) (hphase : r.phases h = .saved) (now : Instant) :
    r.step (.announce h now) = r.announced h m (announcement r.office.externalUrl now m) := by
  simp only [step, hm, hphase]

/-- What an event does to the registry: nothing if the summarizer is gone, otherwise what it does to
the live matches. -/
theorem step_handle_cases (r : Registry) (s : Step) :
    (r.isGone = true ∧ r.step (.handle s) = r) ∨
    r.isGone = false ∧
      ((∃ o, r.book.handle s.fresh s.now s.event = .error o ∧
        r.step (.handle s) = { r with isGone := true }) ∨
      ∃ t b, r.book.handle s.fresh s.now s.event = .ok (t, b) ∧
        ((t.sealed? = none ∧ r.step (.handle s) = { r with book := b }) ∨
        ∃ m, t.sealed? = some m ∧ r.step (.handle s) = { r with
          book := b
          office := r.office.place (.saveMatch m)
          log := r.log ++ r.submitted m })) := by
  cases hgone : r.isGone with
  | true => exact .inl ⟨rfl, by simp [step, hgone]⟩
  | false =>
    refine .inr ⟨rfl, ?_⟩
    cases hb : r.book.handle s.fresh s.now s.event with
    | error o =>
      have hhandle : (Summarizer.mk r.book r.office).handle s.fresh s.now s.event = .error o := by
        unfold Summarizer.handle
        rw [hb]
        rfl
      exact .inl ⟨o, rfl, by simp [step, hgone, hhandle]⟩
    | ok x =>
      obtain ⟨t, b⟩ := x
      refine .inr ⟨t, b, rfl, ?_⟩
      cases ht : t.sealed? with
      | none =>
        have hhandle : (Summarizer.mk r.book r.office).handle s.fresh s.now s.event =
            .ok (t, ⟨b, r.office⟩) := by
          unfold Summarizer.handle
          rw [hb]
          cases t <;> first | rfl | cases ht
        exact .inl ⟨rfl, by simp [step, hgone, hhandle, ht]⟩
      | some m =>
        have hhandle : (Summarizer.mk r.book r.office).handle s.fresh s.now s.event =
            .ok (t, ⟨b, r.office.place (.saveMatch m)⟩) := by
          unfold Summarizer.handle
          rw [hb]
          cases t <;> cases ht
          rfl
        exact .inr ⟨m, rfl, by simp [step, hgone, hhandle, ht]⟩

theorem submit_of_ok {q : Queue Job}
    (hq : r.office.pool.queue.offer (.saveMatch m) = .ok q) :
    r.office.place (.saveMatch m) =
        { r.office with pool := { r.office.pool with queue := q } } ∧
      r.submitted m = [⟨.sealed, m⟩] := by
  constructor
  · simp [Office.place, Pool.place, Pool.put, Job.isVital, Pool.submit, hq]
  · simp [submitted, Pool.submit, hq]

theorem submit_of_error {cause : Refusal}
    (hq : r.office.pool.queue.offer (.saveMatch m) = .error cause) :
    r.office.place (.saveMatch m) = r.office ∧
      r.submitted m = [⟨.sealed, m⟩, ⟨.refused cause, m⟩] := by
  constructor
  · simp [Office.place, Pool.place, Pool.put, Job.isVital, Pool.submit, hq]
  · simp [submitted, Pool.submit, hq]

theorem mem_log_step_refused {s : Step} {b : Book} (hgone : r.isGone = false)
    (hb : r.book.handle s.fresh s.now s.event = .ok (.sealed m, b))
    (hroom : ¬ r.office.pool.queue.HasRoom) :
    ∃ cause, ⟨.refused cause, m⟩ ∈ (r.step (.handle s)).log := by
  obtain ⟨cause, hq⟩ := Queue.offer_of_not_hasRoom hroom (.saveMatch m)
  refine ⟨cause, ?_⟩
  obtain ⟨hgone', -⟩ | ⟨-, ⟨o, hb', -⟩ | ⟨t, b', hb', ⟨ht, -⟩ | ⟨m', ht, hstep⟩⟩⟩ :=
    r.step_handle_cases s
  · rw [hgone] at hgone'
    cases hgone'
  · rw [hb] at hb'
    cases hb'
  · rw [hb] at hb'
    cases hb'
    cases ht
  · rw [hb] at hb'
    cases hb'
    cases ht
    rw [hstep, (submit_of_error hq).2]
    simp

end

def run (r : Registry) (moves : List Move) : Registry := moves.foldl step r

@[simp] theorem run_nil (r : Registry) : r.run [] = r := rfl

@[simp] theorem run_cons (r : Registry) (move : Move) (moves : List Move) :
    r.run (move :: moves) = (r.step move).run moves := rfl

theorem run_append (r : Registry) (moves later : List Move) :
    r.run (moves ++ later) = (r.run moves).run later :=
  List.foldl_append ..

theorem run_concat (r : Registry) (moves : List Move) (move : Move) :
    r.run (moves ++ [move]) = (r.run moves).step move :=
  run_append r moves [move]

/-- A hand that is not disturbed does at once what it does step by step. -/
theorem carryOut_eq_steps {r : Registry} {h : Hand} {m : Sealed} {clock later : Span}
    (hm : r.save? h = some m) (hphase : r.phases h = .untouched)
    (hover : (r.office.services.archive.begin clock).isOver later = true) (now : Instant) :
    (r.run [.call h clock, .answer h later, .announce h now]).office =
      r.office.carryOut now h (.saveMatch m) := by
  obtain ⟨hbegin, hstored⟩ := r.office.services.write_begin clock (.saveMatch m)
  set c := r.office.services.archive.begin clock
  have hanswer : (r.enter h (.calling c)).step (.answer h later) =
      (r.enter h (.calling c)).answered h m (r.office.services.archive.write c (.saveMatch m)) :=
    step_answer (r := r.enter h (.calling c)) hm (Function.update_self ..) hover
  rw [run_cons, run_cons, run_cons, run_nil, step_call hm hphase, hanswer, hbegin]
  rcases hwrite : r.office.services.write (.saveMatch m) with ⟨cause | ⟨⟨⟩⟩, services⟩
  · cases Services.write_of_error hwrite
    have hidle : ((r.enter h (.calling c)).answered h m
        (.error cause, r.office.services.archive)).phases h = .untouched := Function.update_self ..
    simp only [step, hidle]
    simp [Office.carryOut, Job.carryOut, Job.start, hwrite, Job.announced?, answered, Job.written,
      Stage.finish, enter]
  · rw [hwrite] at hstored
    have hservices : { r.office.services with stored := services.stored } = services := hstored.symm
    have hoffice : ((r.enter h (.calling c)).answered h m (.ok (), services.archive)).office =
        { r.office with services } :=
      congrArg (fun services => { r.office with services }) hservices
    rw [step_announce (m := m) (r := (r.enter h (.calling c)).answered h m
      (.ok (), services.archive)) hm (Function.update_self ..), hoffice]
    simp only [Office.carryOut, Job.carryOut, Job.start, hwrite, Job.announced?, Job.written,
      Stage.finish, Option.map_some]
    cases announcement r.office.externalUrl now m <;> simp [announced, hoffice]

end Registry
end Match
end Moderation
