import Moderation.Proofs.Log.Line
/-!
The shape of events. What a line reports has the payload that belongs to its kind, and an actor if a
player has done it; an event whose line fails has nothing but its server and time.
-/
namespace Moderation
open Number Time

namespace EventKind

def carries : EventKind → Payload → Bool
  | say, .say _ => true
  | sayTeam, .say _ => true
  | connected, .connected _ => true
  | roundEnd, .roundEnd _ _ => true
  | mapLoad, .mapLoad _ => true
  | gameOver, .gameOver _ => true
  | kill, .kill _ _ => true
  | damage, .damage _ _ _ => true
  | heal, .heal _ _ => true
  | chargeDeployed, .chargeDeployed _ => true
  | medicDeath, .medicDeath _ _ => true
  | roundStart, .empty => true
  | logStart, .empty => true
  | logStop, .empty => true
  | unknown, .empty => true
  | ignored, .empty => true
  | _, _ => false

def isDeed : EventKind → Bool
  | say => true
  | sayTeam => true
  | connected => true
  | kill => true
  | damage => true
  | heal => true
  | chargeDeployed => true
  | medicDeath => true
  | _ => false

end EventKind

namespace Log

def pointsOf : Option Team → Score
  | some t => roundScore t
  | none => .zero

namespace Content

inductive Form : Content → Prop
  | chat {kind : EventKind} (h : kind = .say ∨ kind = .sayTeam) (p : Player) (message : String) :
    Form ⟨kind, some p, .say message, .empty⟩
  | joined (p : Player) (address : Option Net.IpAddress) :
    Form ⟨.connected, some p, .connected address, .empty⟩
  | killed (p victim : Player) (weapon : String) (as : Attributes) :
    Form ⟨.kill, some p, .kill victim weapon, as⟩
  | damaged (p : Player) (victim : Option Player) (n : Int) (weapon : Option String)
    (as : Attributes) : Form ⟨.damage, some p, .damage victim n weapon, as⟩
  | healed (p : Player) (target : Option Player) (n : Int) (as : Attributes) :
    Form ⟨.heal, some p, .heal target n, as⟩
  | medicDied (p medic : Player) (ubercharge : Bool) (as : Attributes) :
    Form ⟨.medicDeath, some p, .medicDeath medic ubercharge, as⟩
  | deployed (p : Player) (medigun : Option String) (as : Attributes) :
    Form ⟨.chargeDeployed, some p, .chargeDeployed medigun, as⟩
  | noise (p : Option Player) (as : Attributes) : Form ⟨.ignored, p, .empty, as⟩
  | roundStart : Form (bare .roundStart)
  | roundEnd (winner : Option Team) (as : Attributes) :
    Form ⟨.roundEnd, none, .roundEnd winner (pointsOf winner), as⟩
  | gameOver (reason : String) : Form ⟨.gameOver, none, .gameOver reason, .empty⟩
  | mapLoad (map : String) : Form ⟨.mapLoad, none, .mapLoad map, .empty⟩
  | logStart (as : Attributes) : Form ⟨.logStart, none, .empty, as⟩
  | logStop : Form (bare .logStop)
  | other : Form (bare .unknown)

namespace Form
variable {c : Content}

theorem carries (h : c.Form) : c.kind.carries c.payload = true := by
  cases h with
  | chat hkind p message => rcases hkind with rfl | rfl <;> rfl
  | _ => rfl

theorem actor (h : c.Form) (hdeed : c.kind.isDeed = true) : ∃ p, c.actor = some p := by
  cases h with
  | noise p as => cases hdeed
  | roundStart => cases hdeed
  | roundEnd winner as => cases hdeed
  | gameOver reason => cases hdeed
  | mapLoad map => cases hdeed
  | logStart as => cases hdeed
  | logStop => cases hdeed
  | other => cases hdeed
  | _ => exact ⟨_, rfl⟩

end Form

theorem ofTriggerAgainst_form {what : String} {actor target : Player} {as : Attributes}
    {c : Content} (h : ofTriggerAgainst what actor target as = .ok c) : Form c := by
  unfold ofTriggerAgainst at h
  split at h
  · obtain ⟨n, -, h⟩ := bind_eq_ok h
    cases h
    exact .damaged actor (some target) n _ as
  · obtain ⟨n, -, h⟩ := bind_eq_ok h
    cases h
    exact .healed actor (some target) n as
  · cases h
    exact .medicDied actor target _ as
  · cases h
    exact .noise (some actor) as

theorem ofTrigger_form {what : String} {as : Attributes} {kind : EventKind} {payload : Payload}
    (h : ofTrigger what as = .ok (kind, payload)) (p : Player) :
    Form ⟨kind, some p, payload, as⟩ := by
  unfold ofTrigger at h
  split at h
  · cases h
    exact .deployed p _ as
  · obtain ⟨n, -, h⟩ := bind_eq_ok h
    cases h
    exact .damaged p none n _ as
  · cases h
    exact .noise (some p) as

theorem ofWorldTrigger_form {what : String} {rest : List Char} {c : Content}
    (h : ofWorldTrigger what rest = .ok c) : Form c := by
  unfold ofWorldTrigger at h
  split at h
  · cases h
    exact .roundStart
  · simp only at h
    split at h
    · cases h
    next winner _ =>
      cases h
      exact .roundEnd (some (.ofField winner)) _
  · cases h
    exact .roundEnd none .empty
  · cases h
    exact .gameOver _
  · cases h
    exact .noise none .empty

theorem ofStatement_form {body : List Char} {s : Statement} {c : Content}
    (h : ofStatement body s = .ok (.ok c)) : Form c := by
  cases s with
  | said speaker toTeam message =>
    obtain ⟨p, -, h⟩ := bind_eq_ok h
    cases h
    exact .chat (by cases toTeam <;> simp) p _
  | joined player address =>
    obtain ⟨p, -, h⟩ := bind_eq_ok h
    cases h
    exact .joined { p with address := _ } _
  | killed attacker victim weapon rest =>
    obtain ⟨p, -, h⟩ := bind_eq_ok h
    obtain ⟨q, -, h⟩ := bind_eq_ok h
    cases h
    exact .killed p q _ _
  | triggeredAgainst actor what target rest =>
    obtain ⟨p, -, h⟩ := bind_eq_ok h
    obtain ⟨q, -, h⟩ := bind_eq_ok h
    exact ofTriggerAgainst_form (Except.ok.inj h)
  | triggered actor what rest =>
    simp only [ofStatement] at h
    cases htrigger : ofTrigger (String.ofList what) (attributesOf rest) with
    | error failure =>
      rw [htrigger] at h
      cases h
    | ok content =>
      rw [htrigger] at h
      obtain ⟨p, -, h⟩ := bind_eq_ok h
      cases h
      exact ofTrigger_form htrigger p
  | worldTriggered what rest => exact ofWorldTrigger_form (Except.ok.inj h)
  | loading map =>
    cases h
    exact .mapLoad _
  | logStarted =>
    cases h
    exact .logStart _
  | logClosed =>
    cases h
    exact .logStop
  | noise =>
    cases h
    exact .noise none .empty
  | other =>
    cases h
    exact .other

end Content

/-- The event of a classified line is what its line reports, or the line failed. -/
theorem classify_form {now : Stamp} {origin : Server} {line : String} {c : Classified}
    (h : classify now origin line = .ok c) :
    ∃ time report, c = .of origin time report ∧ ∀ content, report = .ok content → content.Form := by
  cases hbody : body? now line with
  | none =>
    rcases classify_of_no_body origin hbody with ⟨failure, hc⟩ | ⟨time, hc⟩
    · rw [hc] at h
      cases h
      exact ⟨now, .error failure, rfl, by rintro _ ⟨⟩⟩
    · rw [hc] at h
      cases h
      exact ⟨time, .ok (.bare .ignored), rfl, by rintro _ ⟨⟩; exact .noise none .empty⟩
  | some read =>
    rw [classify_of_body? origin hbody] at h
    cases hreport : Content.ofStatement read.2 (.ofBody read.2) with
    | error o =>
      rw [hreport] at h
      cases h
    | ok report =>
      rw [hreport] at h
      cases h
      refine ⟨read.1, report, rfl, fun content hcontent => ?_⟩
      rw [hcontent] at hreport
      exact Content.ofStatement_form hreport

theorem classify_origin {now : Stamp} {origin : Server} {line : String} {c : Classified}
    (h : classify now origin line = .ok c) : c.event.origin = origin := by
  obtain ⟨time, report, rfl, -⟩ := classify_form h
  cases report <;> rfl

end Log
end Moderation
