import Moderation.Proofs.Log.Line
/-!
Account numbers in log lines. The players that a line names are read from its tags. A line is
classified if each of their account numbers is one that a steam id can have, and fails altogether if
one is not.
-/
namespace Moderation
open Text Number Time

def Payload.player? : Payload → Option Player
  | .kill victim _ => some victim
  | .damage victim _ _ => victim
  | .heal target _ => target
  | .medicDeath medic _ => some medic
  | _ => none

namespace Log

namespace Tag

def idNumber (t : Tag) : Nat :=
  match SteamId.account? t.steam with
  | some n => SteamId.base + n
  | none => 0

theorem inRange_iff {t : Tag} : t.InRange ↔
    (SteamId.account? t.steam).all (fun n => SteamId.base + n < Nat.pow 2 64) = true := by
  simp [InRange, Option.all_eq_true]

instance (t : Tag) : Decidable t.InRange := decidable_of_iff _ inRange_iff.symm

theorem owner_idNumber {t : Tag} (h : t.InRange) : t.owner.steamId.word.toNat = t.idNumber :=
  owner_steamId_toNat h

theorem player_of_not_inRange {t : Tag} (h : ¬ t.InRange) : t.player = .error .sum := by
  unfold InRange at h
  push Not at h
  obtain ⟨n, haccount, hn⟩ := h
  simp only [player, SteamId.ofSteam3?, haccount, SteamId.ofAccount, if_neg (Nat.not_lt.2 hn)]
  rfl

end Tag

/-- The tags whose players are read. In a trigger without another player the properties come first:
nobody is read if its amount is missing. -/
def Statement.tags : Statement → List Tag
  | .said t _ _ => [t]
  | .joined t _ => [t]
  | .killed attacker victim _ _ => [attacker, victim]
  | .triggeredAgainst actor _ target _ => [actor, target]
  | .triggered actor what rest =>
    match Content.ofTrigger (String.ofList what) (attributesOf rest) with
    | .ok _ => [actor]
    | .error _ => []
  | _ => []

/-- The players that an event names have the ids that tags stand for, the actor that of the first
and the other player that of the second. -/
structure Names (actor : Option Player) (payload : Payload) (ts : List Tag) : Prop where
  actor : actor.map (·.steamId.word.toNat) = ts.head?.map Tag.idNumber
  other : ∀ p, payload.player? = some p → ts[1]?.map Tag.idNumber = some p.steamId.word.toNat

theorem names_nil {payload : Payload} (hp : payload.player? = none) : Names none payload [] :=
  ⟨rfl, by simp [hp]⟩

theorem names_one {payload : Payload} {t : Tag} {p : Player} (h : t.InRange)
    (hid : p.steamId = t.owner.steamId) (hp : payload.player? = none) :
    Names (some p) payload [t] :=
  ⟨by simp [hid, Tag.owner_idNumber h], by simp [hp]⟩

theorem names_two {payload : Payload} {t u : Tag} (h : t.InRange) (k : u.InRange)
    (hp : ∀ p, payload.player? = some p → p = u.owner) : Names (some t.owner) payload [t, u] := by
  refine ⟨by simp [Tag.owner_idNumber h], fun p hpp => ?_⟩
  rw [hp p hpp, Tag.owner_idNumber k]
  rfl

namespace Content

/-- A statement fails if a number of its tags is too large, and else names the players of all. -/
inductive Reads (ts : List Tag) : Except Overflow (Except Failure Content) → Prop
  | overflows (h : ∃ t ∈ ts, ¬ t.InRange) : Reads ts (.error .sum)
  | fails (h : ∀ t ∈ ts, t.InRange) (failure : Failure) : Reads ts (.ok (.error failure))
  | names (h : ∀ t ∈ ts, t.InRange) {c : Content} (hc : Names c.actor c.payload ts) : Reads ts (.ok (.ok c))

theorem reads_nil {r : Except Failure Content} (h : ∀ c, r = .ok c → Names c.actor c.payload []) :
    Reads [] (.ok r) := by
  cases r with
  | error failure => exact .fails (by simp) failure
  | ok c => exact .names (by simp) (h c rfl)

theorem reads_one {t : Tag} {f : Player → Except Failure Content}
    (hf : ∀ c, t.InRange → f t.owner = .ok c → Names c.actor c.payload [t]) :
    Reads [t] (t.player >>= fun p => .ok (f p)) := by
  by_cases h : t.InRange
  · rw [Tag.player_of_inRange h]
    change Reads [t] (.ok (f t.owner))
    cases hc : f t.owner with
    | error failure => exact .fails (by simpa using h) failure
    | ok c => exact .names (by simpa using h) (hf c h hc)
  · rw [Tag.player_of_not_inRange h]
    exact .overflows ⟨t, by simp, h⟩

theorem reads_two {t u : Tag} {f : Player → Player → Except Failure Content}
    (hf : ∀ c, f t.owner u.owner = .ok c →
      c.actor = some t.owner ∧ ∀ p, c.payload.player? = some p → p = u.owner) :
    Reads [t, u] (t.player >>= fun p => u.player >>= fun q => .ok (f p q)) := by
  by_cases h : t.InRange
  · rw [Tag.player_of_inRange h]
    change Reads [t, u] (u.player >>= fun q => .ok (f t.owner q))
    by_cases k : u.InRange
    · rw [Tag.player_of_inRange k]
      change Reads [t, u] (.ok (f t.owner u.owner))
      have hall : ∀ x ∈ [t, u], x.InRange := by simp [h, k]
      cases hc : f t.owner u.owner with
      | error failure => exact .fails hall failure
      | ok c =>
        obtain ⟨hactor, hother⟩ := hf c hc
        refine .names hall ?_
        rw [hactor]
        exact names_two h k hother
    · rw [Tag.player_of_not_inRange k]
      exact .overflows ⟨u, by simp, k⟩
  · rw [Tag.player_of_not_inRange h]
    exact .overflows ⟨t, by simp, h⟩

theorem ofTriggerAgainst_names {what : String} {actor other : Player} {as : Attributes}
    {c : Content} (h : ofTriggerAgainst what actor other as = .ok c) :
    c.actor = some actor ∧ ∀ p, c.payload.player? = some p → p = other := by
  unfold ofTriggerAgainst at h
  split at h
  · obtain ⟨n, -, h⟩ := bind_eq_ok h
    cases h
    exact ⟨rfl, by simp [Payload.player?, eq_comm]⟩
  · obtain ⟨n, -, h⟩ := bind_eq_ok h
    cases h
    exact ⟨rfl, by simp [Payload.player?, eq_comm]⟩
  · cases h
    exact ⟨rfl, by simp [Payload.player?, eq_comm]⟩
  · cases h
    exact ⟨rfl, by simp [Payload.player?]⟩

theorem ofTrigger_player? {what : String} {as : Attributes} {kind : EventKind} {payload : Payload}
    (h : ofTrigger what as = .ok (kind, payload)) : payload.player? = none := by
  unfold ofTrigger at h
  split at h
  · cases h
    rfl
  · obtain ⟨n, -, h⟩ := bind_eq_ok h
    cases h
    rfl
  · cases h
    rfl

theorem ofWorldTrigger_names {what : String} {rest : List Char} {c : Content}
    (h : ofWorldTrigger what rest = .ok c) : Names c.actor c.payload [] := by
  unfold ofWorldTrigger at h
  split at h
  · cases h
    exact names_nil rfl
  · simp only at h
    split at h
    · cases h
    · cases h
      exact names_nil rfl
  · cases h
    exact names_nil rfl
  · cases h
    exact names_nil rfl
  · cases h
    exact names_nil rfl

/-- Every statement is read, as far as the account numbers of its tags allow. -/
theorem ofStatement_reads (body : List Char) (s : Statement) :
    Reads s.tags (ofStatement body s) := by
  cases s with
  | said speaker toTeam message =>
    refine reads_one (f := fun p => .ok ⟨_, some p, _, _⟩) fun c h hc => ?_
    cases hc
    exact names_one h rfl rfl
  | joined player address =>
    refine reads_one (f := fun p => .ok ⟨_, some { p with address := _ }, _, _⟩) fun c h hc => ?_
    cases hc
    exact names_one h rfl rfl
  | killed attacker victim weapon rest =>
    refine reads_two (f := fun p q => .ok ⟨_, some p, .kill q _, _⟩) fun c hc => ?_
    cases hc
    exact ⟨rfl, by simp [Payload.player?, eq_comm]⟩
  | triggeredAgainst actor what other rest =>
    exact reads_two fun c hc => ofTriggerAgainst_names hc
  | triggered actor what rest =>
    simp only [Statement.tags, ofStatement]
    cases htrigger : ofTrigger (String.ofList what) (attributesOf rest) with
    | error failure => exact reads_nil fun c hc => by cases hc
    | ok content =>
      obtain ⟨kind, payload⟩ := content
      refine reads_one (f := fun p => .ok ⟨kind, some p, payload, _⟩) fun c h hc => ?_
      cases hc
      exact names_one h rfl (ofTrigger_player? htrigger)
  | worldTriggered what rest => exact reads_nil fun c hc => ofWorldTrigger_names hc
  | loading map => exact reads_nil fun c hc => Except.ok.inj hc ▸ names_nil rfl
  | logStarted => exact reads_nil fun c hc => Except.ok.inj hc ▸ names_nil rfl
  | logClosed => exact reads_nil fun c hc => Except.ok.inj hc ▸ names_nil rfl
  | noise => exact reads_nil fun c hc => Except.ok.inj hc ▸ names_nil rfl
  | other => exact reads_nil fun c hc => Except.ok.inj hc ▸ names_nil rfl

end Content

def tags (now : Stamp) (line : String) : List Tag :=
  match body? now line with
  | some (_, body) => (Statement.ofBody body).tags
  | none => []

inductive Settles (ts : List Tag) : Except Overflow Classified → Prop
  | overflows (h : ∃ t ∈ ts, ¬ t.InRange) : Settles ts (.error .sum)
  | returns (h : ∀ t ∈ ts, t.InRange) {c : Classified}
    (hc : c.failure = none → Names c.event.actor c.event.payload ts) : Settles ts (.ok c)

theorem classify_settles (now : Stamp) (origin : Server) (line : String) :
    Settles (tags now line) (classify now origin line) := by
  unfold tags
  cases hbody : body? now line with
  | none =>
    rcases classify_of_no_body origin hbody with ⟨failure, hc⟩ | ⟨time, hc⟩
    · rw [hc]
      exact .returns (by simp) nofun
    · rw [hc]
      exact .returns (by simp) fun _ => names_nil rfl
  | some read =>
    have hreads := Content.ofStatement_reads read.2 (.ofBody read.2)
    rw [classify_of_body? origin hbody]
    generalize Content.ofStatement read.2 (.ofBody read.2) = content at hreads ⊢
    cases hreads with
    | overflows h => exact .overflows h
    | fails h failure => exact .returns h nofun
    | names h hc => exact .returns h fun _ => hc

/-- A line is classified if the account numbers of its tags are not too large. -/
theorem exists_classify {now : Stamp} {line : String} (origin : Server)
    (h : ∀ t ∈ tags now line, t.InRange) : ∃ c, classify now origin line = .ok c := by
  have hsettles := classify_settles now origin line
  generalize classify now origin line = result at hsettles ⊢
  cases hsettles with
  | overflows hlarge =>
    obtain ⟨t, ht, hrange⟩ := hlarge
    exact absurd (h t ht) hrange
  | returns _ hc => exact ⟨_, rfl⟩

/-- A line is classified exactly if the account numbers in the tags it is read from are not too
large. The players of its event have the ids of these tags, which are zero without an account. -/
theorem classify_defined (now : Stamp) (origin : Server) (line : String) :
    ((∃ c, classify now origin line = .ok c) ↔ ∀ t ∈ tags now line, t.InRange) ∧
    ∀ c, classify now origin line = .ok c → c.failure = none →
      Names c.event.actor c.event.payload (tags now line) := by
  have hsettles := classify_settles now origin line
  refine ⟨⟨?_, exists_classify origin⟩, ?_⟩
  · rintro ⟨c, hc⟩
    rw [hc] at hsettles
    cases hsettles with
    | returns h hnames => exact h
  · intro c hc
    rw [hc] at hsettles
    cases hsettles with
    | returns h hnames => exact hnames

/-- The largest account that a steam id can have kills a player without one. -/
def largestAccount : String :=
  "L 03/01/2024 - 20:00:01: \"A<2><[U:1:18370182875749285887]><Red>\" killed " ++
    "\"B<3><BOT><Blue>\" with \"shotgun\""

theorem classify_defined_largestAccount :
    ∃ c, classify ⟨0, 0⟩ ⟨1, "srv-1"⟩ largestAccount = .ok c ∧ c.failure = none ∧
      c.event.actor.map (·.steamId.word.toNat) = some 18446744073709551615 ∧
      ∀ p, c.event.payload.player? = some p → p.steamId.word.toNat = 0 := by
  obtain ⟨⟨-, hdefined⟩, hnames⟩ := classify_defined ⟨0, 0⟩ ⟨1, "srv-1"⟩ largestAccount
  have htags : (tags ⟨0, 0⟩ largestAccount).map Tag.idNumber = [18446744073709551615, 0] := by
    decide +kernel
  obtain ⟨c, hc⟩ := hdefined (by decide +kernel)
  have hfailure : (classify ⟨0, 0⟩ ⟨1, "srv-1"⟩ largestAccount).map (·.failure) = .ok none := by
    decide +kernel
  rw [hc] at hfailure
  have hc' := hnames c hc (Except.ok.inj hfailure)
  refine ⟨c, hc, Except.ok.inj hfailure, ?_, fun p hp => ?_⟩
  · rw [hc'.actor, ← List.head?_map, htags]
    rfl
  · have hid := hc'.other p hp
    rw [← List.getElem?_map, htags] at hid
    exact (Option.some.inj hid).symm

def tooLargeAccount : String :=
  "L 03/01/2024 - 20:00:01: \"A<2><[U:1:18446744073709551615]><Red>\" say \"hi\""

/-- A line with too large an account number has no event at all. -/
theorem classify_tooLargeAccount :
    classify ⟨0, 0⟩ ⟨1, "srv-1"⟩ tooLargeAccount = .error .sum := by
  rfl

end Log
end Moderation
