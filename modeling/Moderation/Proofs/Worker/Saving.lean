import Moderation.Proofs.Ban.Course
import Moderation.Store.Call
import Moderation.Worker.Job
/-!
Jobs and the matches in the store. A call that nothing disturbs writes what is written at once; a job
about something else leaves the matches as they are.
-/
namespace Moderation
open Time

def Services.archive (s : Services) : Archive := ⟨s.stored, s.storeFault, s.limit⟩

def Worker.Job.match? : Job → Option Match.Sealed
  | saveMatch m => some m
  | _ => none

/-- A call that nothing disturbs writes what is written at once. -/
theorem Services.write_begin (s : Services) (clock : Span) (w : Store.Write) :
    s.archive.write (s.archive.begin clock) w = ((s.write w).1, (s.write w).2.archive) ∧
      (s.write w).2 = { s with stored := (s.write w).2.stored } := by
  simp only [archive, Archive.write, Archive.begin, Fault.answer_begin, write, Fault.write]
  cases s.storeFault.call s.limit (s.stored.write w) <;> simp

theorem Services.write_of_error {s s' : Services} {w : Store.Write} {cause : StoreError}
    (h : s.write w = (.error cause, s')) : s' = s := by
  unfold write Fault.write at h
  split at h
  next hcall =>
    split at hcall
    · cases hcall
      cases h
    · cases hcall
      cases h
      rfl

theorem Services.write_of_answers {s : Services} {c : Call} (hcall : c.isInTime = true)
    (h : Ban.Answers s.storeFault s.limit) (m : Match.Sealed) :
    s.archive.write c (.saveMatch m) = (.ok (), { s.archive with
      store := { s.stored with finished := s.stored.finished ++ [m] } }) := by
  simp [archive, Archive.write, Fault.answer, hcall, h.2, Store.write]

/-- A match that is written stands at the end of those that are finished. -/
theorem Archive.finished_of_write {a a' : Archive} {c : Call} {m : Match.Sealed}
    (h : a.write c (.saveMatch m) = (.ok (), a')) :
    a'.store.finished = a.store.finished ++ [m] := by
  unfold Archive.write at h
  split at h
  next store hanswer =>
    cases h
    unfold Fault.answer at hanswer
    split at hanswer
    · cases hanswer
    · split at hanswer
      · cases hanswer
      · cases hanswer
        rfl
  next => cases h

namespace Worker

theorem Stage.exists_finish (stage : Stage) (s : Services) :
    ∃ sent, stage.finish s = { s with sent } := by
  cases stage with
  | telling server command => exact ⟨_, rfl⟩
  | _ => exact ⟨s.sent, rfl⟩

theorem finished_of_other {s s' : Store} {w : Store.Write} (h : s.write w = .ok s')
    (hw : ∀ m, w ≠ .saveMatch m) : s'.finished = s.finished := by
  cases w with
  | saveMatch m => exact absurd rfl (hw m)
  | appendChat r =>
    cases h
    rfl
  | appendConnection r =>
    cases h
    rfl
  | countTrigger id =>
    simp only [Store.write] at h
    split at h
    · cases h
      rfl
    · cases h
  | applyBan r =>
    simp only [Store.write] at h
    split at h
    · cases h
    · cases h
      rfl

theorem finished_write (s : Services) {w : Store.Write} (hw : ∀ m, w ≠ .saveMatch m) :
    (s.write w).2.stored.finished = s.stored.finished := by
  by_cases h : Ban.Answers s.storeFault s.limit
  · simp only [Services.write, Fault.write, Ban.call_of_answers h]
    split
    next hstore => exact finished_of_other hstore hw
    next => rfl
  · obtain ⟨cause, -, hwrite⟩ := Ban.write_of_not_answers h w
    rw [hwrite]

theorem ne_saveMatch_of_start {j : Job} {w : Store.Write} (hj : j.match? = none)
    (h : j.start = .writing w) (m : Match.Sealed) : w ≠ .saveMatch m := by
  rintro rfl
  cases j with
  | saveMatch m' => cases hj
  | countTrigger id => cases h
  | tell server command => cases h
  | act r =>
    simp only [Job.start] at h
    split at h
    next => cases h
    next rest _ => cases rest <;> cases h

/-- A job about something else finishes no match and announces nothing. -/
theorem carryOut_of_match? {j : Job} (h : j.match? = none) (o : Office) (now : Instant)
    (hand : Hand) : ∃ stored sent, stored.finished = o.services.stored.finished ∧
      o.carryOut now hand j =
        { o with services := { o.services with stored, sent }, pool := o.pool.finish hand } := by
  have hcarry : ∃ stored sent, stored.finished = o.services.stored.finished ∧
      j.carryOut o.services = (none, { o.services with stored, sent }) := by
    unfold Job.carryOut
    split
    next w hw =>
      have hfinished := finished_write o.services (ne_saveMatch_of_start h hw)
      obtain ⟨sent, hsent⟩ := Stage.exists_finish (j.written (o.services.write w).1)
        (o.services.write w).2
      have hnone : j.announced? (o.services.write w).1 = none := by
        cases j <;> first | rfl | cases h
      refine ⟨(o.services.write w).2.stored, sent, hfinished, ?_⟩
      simp only [hnone, hsent]
      rw [(o.services.write_begin .zero w).2]
    next =>
      obtain ⟨sent, hsent⟩ := Stage.exists_finish j.start o.services
      exact ⟨o.services.stored, sent, rfl, by rw [hsent]⟩
  obtain ⟨stored, sent, hfinished, hcarry⟩ := hcarry
  refine ⟨stored, sent, hfinished, ?_⟩
  simp only [Office.carryOut, hcarry]
  rfl

end Worker
end Moderation
