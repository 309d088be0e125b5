import Moderation.History
import Moderation.Worker.Errand
import Moderation.Proofs.Worker.Labour
/-!
Chat in the store. A write of a line of chat adds it behind the others if the store answers, and
errands write no chat.
-/
namespace Moderation
open Time

def Store.Write.chat? : Store.Write → Option ChatRecord
  | .appendChat r => some r
  | _ => none

theorem History.chat?_write? (e : Event) :
    (History.write? e).bind Store.Write.chat? = History.chatRecord? e := by
  unfold write?
  cases chatRecord? e with
  | some r => rfl
  | none => cases connectionRecord? e <;> rfl

structure Archive.SameChat (a a' : Archive) : Prop where
  fault : a'.fault = a.fault
  limit : a'.limit = a.limit
  chat : a'.store.chat = a.store.chat

namespace Archive

theorem SameChat.refl (a : Archive) : a.SameChat a := ⟨rfl, rfl, rfl⟩

theorem write_frame (a : Archive) (c : Call) (w : Store.Write) :
    (a.write c w).2.fault = a.fault ∧ (a.write c w).2.limit = a.limit := by
  unfold write
  split <;> exact ⟨rfl, rfl⟩

theorem chat_of_write {s s' : Store} {w : Store.Write} (h : s.write w = .ok s') :
    s'.chat = s.chat ++ w.chat?.toList := by
  cases w with
  | saveMatch m =>
    cases h
    exact (List.append_nil _).symm
  | appendChat r =>
    cases h
    rfl
  | appendConnection r =>
    cases h
    exact (List.append_nil _).symm
  | countTrigger id =>
    simp only [Store.write] at h
    split at h <;> cases h
    exact (List.append_nil _).symm
  | applyBan r =>
    simp only [Store.write] at h
    split at h <;> cases h
    exact (List.append_nil _).symm

theorem answer_eq_ok {α : Type} {f : Fault} {limit : Span} {c : Call} {run : Except StoreError α}
    {a : α} (h : f.answer limit c run = .ok a) : run = .ok a := by
  unfold Fault.answer at h
  split at h
  · cases h
  · split at h
    · cases h
    · exact h

/-- A write of something else leaves the chat as it is, whether it succeeds or not. -/
theorem sameChat_write {w : Store.Write} (h : w.chat? = none) (a : Archive) (c : Call) :
    a.SameChat (a.write c w).2 := by
  obtain ⟨hfault, hlimit⟩ := a.write_frame c w
  refine ⟨hfault, hlimit, ?_⟩
  unfold write
  split
  next store hstore =>
    have hchat := chat_of_write (answer_eq_ok hstore)
    rw [h] at hchat
    simpa using hchat
  next => rfl

/-- A call in time to a store that does not fail adds what is written to the chat. -/
theorem chat_write {a : Archive} (ha : a.fault.failing = false) {c : Call}
    (hc : c.isInTime = true) (w : Store.Write) :
    (a.write c w).2.store.chat = a.store.chat ++ w.chat?.toList := by
  cases hw : w.chat? with
  | none => simpa [hw] using (sameChat_write hw a c).chat
  | some r =>
    obtain rfl : w = .appendChat r := by
      cases w <;> cases hw
      rfl
    simp [write, Fault.answer, hc, ha, Store.write]

end Archive

namespace Worker

def Errand.IsQuiet (e : Errand) : Prop := ∀ w, e.stage = .writing w → w.chat? = none

theorem Errand.isQuiet_ofJob (j : Job) : (Errand.ofJob j).IsQuiet := by
  intro w hw
  cases j with
  | saveMatch m =>
    cases hw
    rfl
  | countTrigger id =>
    cases hw
    rfl
  | tell server command => cases hw
  | act r =>
    simp only [ofJob, Job.start] at hw
    split at hw
    · cases hw
      rfl
    next rest _ => cases rest <;> cases hw

/-- Progress that leaves the chat as it is, with an errand that will. -/
def Progress.SparesChat (a : Archive) : Progress Errand Archive → Prop
  | .done a' => a.SameChat a'
  | .waits e a' _ => e.IsQuiet ∧ a.SameChat a'

theorem Errand.sparesChat_await {a a' : Archive} (hsame : a.SameChat a') {e : Errand}
    (he : e.IsQuiet) {clock : Span} {next : Call → Progress Errand Archive}
    (hnext : ∀ c, (next c).SparesChat a) : (e.await a' clock next).SparesChat a := by
  unfold await
  simp only
  split
  · exact hnext _
  · exact ⟨he, hsame⟩

theorem Errand.sparesChat_goOn {e : Errand} (he : e.IsQuiet) (a : Archive) (clock : Span)
    (c : Call) : (e.goOn a clock c).SparesChat a := by
  unfold goOn
  cases hstage : e.stage with
  | writing w =>
    have hsame := Archive.sameChat_write (he w hstage) a c
    rcases hwrite : a.write c w with ⟨answer, a'⟩
    rw [hwrite] at hsame
    simp only [hwrite]
    split
    · exact sparesChat_await hsame (fun w hw => by cases hw) fun _ => hsame
    · exact hsame
  | telling server command => exact .refl a
  | done => exact .refl a

/-- Errands are carried out without a change to the chat. -/
theorem Errand.keeps_labour : Errand.labour.Keeps IsQuiet Archive.SameChat := by
  have hspares : ∀ {clock : Span} {e : Errand} {a : Archive} {progress : Progress Errand Archive},
      e.IsQuiet → labour clock e a = some progress → progress.SparesChat a := by
    intro clock e a progress he h
    unfold labour at h
    split at h
    next c _ =>
      split at h
      · cases h
        exact sparesChat_goOn he a clock c
      · cases h
    next =>
      cases h
      exact .refl a
    next =>
      cases h
      exact sparesChat_await (.refl a) he fun c => sparesChat_goOn he a clock c
  intro clock e a progress he h
  have hprogress := hspares he h
  cases progress <;> exact hprogress

end Worker

end Moderation
