import Moderation.Match.Basic
import Moderation.Proofs.Log.Shape
/-!
What a match makes of the events that lines report. A match of the same server takes them all, except
those with a negative amount, and is left as it was by these.
-/
namespace Moderation
open Number Time Log

def Event.amount? (e : Event) : Option Int :=
  match e.kind, e.payload with
  | .damage, .damage _ amount _ => some amount
  | .heal, .heal _ amount => some amount
  | _, _ => none

theorem Event.kind_of_amount? {e : Event} {n : Int} (h : e.amount? = some n) :
    e.kind = .damage ∨ e.kind = .heal := by
  unfold amount? at h
  split at h
  next hk _ => exact .inl hk
  next hk _ => exact .inr hk
  next => cases h

namespace Match

/-- What becomes of an event of the match's own server: one with a negative amount is rejected, and
all others have an effect. -/
inductive Outcome (e : Event) : Except Rejection Effect → Prop
  | negative {n : Int} (hn : n < 0) (h : e.amount? = some n) :
    Outcome e (.error (.negativeAmount e.kind n))
  | takes (eff : Effect) (h : ∀ n, e.amount? = some n → 0 ≤ n) : Outcome e (.ok eff)

theorem Outcome.of_natural {e : Event} {n : Int} (h : e.amount? = some n) (f : Int → Effect) :
    Outcome e ((natural e n).map f) := by
  by_cases hn : n < 0
  · rw [natural, if_pos hn]
    exact .negative hn h
  · rw [natural, if_neg hn]
    refine .takes (f n) fun m hm => ?_
    rw [h] at hm
    cases hm
    exact Int.not_lt.1 hn

/-- An event that a line reports has an effect, unless its amount is negative. -/
theorem outcome_of_form {c : Content} (h : c.Form) (origin : Server) (time : Stamp) :
    let e : Event := ⟨c.kind, origin, c.actor, time, c.payload, c.attributes⟩
    Outcome e (effect e) := by
  cases h with
  | damaged p victim n weapon as => exact .of_natural rfl fun n => .credit (creditsOf p .damage n)
  | healed p target n as => exact .of_natural rfl fun n => .credit (creditsOf p .healing n)
  | chat hkind p message => rcases hkind with rfl | rfl <;> exact .takes _ nofun
  | joined p address => exact .takes _ nofun
  | killed p victim weapon as => exact .takes _ nofun
  | medicDied p medic ubercharge as => exact .takes _ nofun
  | deployed p medigun as => exact .takes _ nofun
  | noise p as => exact .takes _ nofun
  | roundStart => exact .takes _ nofun
  | roundEnd winner as => exact .takes _ nofun
  | gameOver reason => exact .takes _ nofun
  | mapLoad map => exact .takes _ nofun
  | logStart as => exact .takes _ nofun
  | logStop => exact .takes _ nofun
  | other => exact .takes _ nofun

theorem outcome_classify {now : Stamp} {origin : Server} {line : String} {c : Classified}
    (h : classify now origin line = .ok c) : Outcome c.event (effect c.event) := by
  obtain ⟨time, report, rfl, hform⟩ := classify_form h
  cases report with
  | error failure => exact .takes _ nofun
  | ok content => exact outcome_of_form (hform content rfl) origin time

theorem apply_of_outcome {m : Match} {e : Event} (hown : e.origin.id = m.server.id)
    (h : Outcome e (effect e)) :
    (∃ n, n < 0 ∧ e.amount? = some n ∧
      m.apply e = (m, .rejected (.negativeAmount e.kind n))) ∨
    (∀ n, e.amount? = some n → 0 ≤ n) ∧
      ((m.apply e).2 = .accepted ∨ (m.apply e).2 = .overflowed .sum) := by
  unfold apply
  rw [if_neg (not_not.2 hown)]
  generalize effect e = result at h
  cases h with
  | negative hn hamount => exact .inl ⟨_, hn, hamount, rfl⟩
  | takes eff hamount =>
    refine .inr ⟨hamount, ?_⟩
    rcases hperform : m.perform eff with ⟨m', result⟩
    cases result with
    | ok _ => exact .inl (by simp only [hperform])
    | error o => exact .inr (by simp only [hperform])

/-- The event of a line has the payload of its kind, a deed has an actor, and a failed line has an
event without content. Every match of the server accepts the event unless a total overflows, except
that it rejects damage and healing exactly if the amount is negative. -/
theorem apply_classified {now : Stamp} {origin : Server} {line : String} {c : Classified}
    (h : classify now origin line = .ok c) :
    c.event.kind.carries c.event.payload = true ∧
    (c.event.kind.isDeed = true → ∃ p, c.event.actor = some p) ∧
    (∀ failure, c.failure = some failure →
      c.event = .bare .unknown origin c.event.occurredAt) ∧
    (∀ n, c.event.amount? = some n → c.event.kind = .damage ∨ c.event.kind = .heal) ∧
    ∀ m : Match, m.server.id = origin.id →
      (∃ n, n < 0 ∧ c.event.amount? = some n ∧
        m.apply c.event = (m, .rejected (.negativeAmount c.event.kind n))) ∨
      (∀ n, c.event.amount? = some n → 0 ≤ n) ∧
        ((m.apply c.event).2 = .accepted ∨ (m.apply c.event).2 = .overflowed .sum) := by
  have happly : ∀ m : Match, m.server.id = origin.id → _ := fun m hserver =>
    apply_of_outcome (m := m) (by rw [classify_origin h, hserver]) (outcome_classify h)
  obtain ⟨time, report, rfl, hform⟩ := classify_form h
  cases report with
  | error failure => exact ⟨rfl, nofun, fun _ _ => rfl, nofun, happly⟩
  | ok content =>
    have hcontent := hform content rfl
    exact ⟨hcontent.carries, hcontent.actor, nofun, fun n => Event.kind_of_amount?, happly⟩

def harmfulHealing : String :=
  "L 03/01/2024 - 20:00:01: \"A<2><[U:1:1]><Red>\" triggered \"healed\" against " ++
    "\"B<3><[U:1:2]><Red>\" (healing \"-5\")"

theorem apply_classified_harmfulHealing :
    ∃ c, classify ⟨0, 0⟩ ⟨1, "s"⟩ harmfulHealing = .ok c ∧ c.event.kind = .heal ∧
      c.event.actor.isSome = true ∧
      let m : Match := start ⟨0⟩ ⟨1, "s"⟩ "ctf_2fort" ⟨0⟩
      m.apply c.event = (m, .rejected (.negativeAmount .heal (-5))) := by
  have hkind : (classify ⟨0, 0⟩ ⟨1, "s"⟩ harmfulHealing).map
      (fun c => (c.event.kind, c.event.amount?)) = .ok (.heal, some (-5)) := by
    decide +kernel
  cases hc : classify ⟨0, 0⟩ ⟨1, "s"⟩ harmfulHealing with
  | error o =>
    rw [hc] at hkind
    cases hkind
  | ok c =>
    rw [hc] at hkind
    obtain ⟨hheal, hamount⟩ := Prod.mk.inj (Except.ok.inj hkind)
    obtain ⟨-, hactor, -, -, happly⟩ := apply_classified hc
    obtain ⟨p, hp⟩ := hactor (by rw [hheal]; rfl)
    refine ⟨c, rfl, hheal, by rw [hp]; rfl, ?_⟩
    rcases happly (start ⟨0⟩ ⟨1, "s"⟩ "ctf_2fort" ⟨0⟩) rfl with ⟨n, -, hn, hreject⟩ | ⟨hno, -⟩
    · rw [hamount] at hn
      cases hn
      exact hreject.trans (by rw [hheal])
    · exact absurd (hno (-5) hamount) (by decide)

end Match
end Moderation
