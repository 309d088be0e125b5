import Moderation.Schedule
/-!
Relations that are kept when tasks share a processor. What every step of a task keeps is kept by its
turn, and by all turns until nobody can go on, whatever the order of the line.
-/
namespace Moderation.Schedule
open Time

structure IsKept {τ σ : Type} (ts : Tasks τ σ) (R : σ → σ → Prop) : Prop where
  refl : ∀ s, R s s
  trans : ∀ {s s' s''}, R s s' → R s' s'' → R s s''
  step : ∀ {clock t s step}, ts.step? clock t s = some step → R s step.state

namespace IsKept
variable {τ σ : Type} [DecidableEq τ] {ts : Tasks τ σ} {R : σ → σ → Prop}

theorem turn (h : IsKept ts R) (t : τ) (n : Nat) (a : Agenda τ) (s : σ) :
    R s (a.turn ts t n s).2 := by
  induction n generalizing a s with
  | zero => exact h.refl s
  | succ n ih =>
    unfold Agenda.turn
    cases hstep : ts.step? a.clock t s with
    | none => exact h.refl s
    | some step =>
      have hfirst := h.step hstep
      cases hsleep : step.sleep with
      | none => simpa only [hsleep] using h.trans hfirst (ih (a.wakeAll step.woken) step.state)
      | some d => simpa only [hsleep] using hfirst

theorem run (h : IsKept ts R) (limit : Span) (fuel : Nat) (a : Agenda τ) (s : σ) :
    R s (a.run ts limit fuel s).2 := by
  induction fuel generalizing a s with
  | zero => exact h.refl s
  | succ fuel ih =>
    unfold Agenda.run
    cases a.ready with
    | cons t ready => exact h.trans (h.turn t _ _ s) (ih _ _)
    | nil =>
      cases a.next? with
      | none => exact h.refl s
      | some d =>
        simp only
        split
        · exact ih _ s
        · exact h.refl s

end IsKept
end Moderation.Schedule
