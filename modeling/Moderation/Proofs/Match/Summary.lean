import Moderation.Match.Summary
import Moderation.Proofs.Match.Played
import Moderation.Proofs.Match.Rounds
import Moderation.Proofs.Notice.Fields
import Moderation.Proofs.Number.Decimal
import Moderation.Proofs.Table
/-!
The announcement of a match is complete. Its totals are integers of sixty-four bits, and there is
one row for a team at most, so that no text is too long for a field and no field is left out.
-/
namespace Moderation
open Notice Number Text Time

namespace Text

/-- An integer of sixty-four bits takes a sign and nineteen digits. -/
theorem length_showInt_le {n : Int} (h : int64.Holds n) : (showInt n).length ≤ 20 := by
  have hlow : int64.low = -9223372036854775808 := by decide
  have hhigh : int64.high = 9223372036854775807 := by decide
  have habs : n.natAbs < Nat.pow 10 (18 + 1) := by
    obtain ⟨hl, hh⟩ := h
    have hpow : Nat.pow 10 (18 + 1) = 10000000000000000000 := by decide
    omega
  rw [← String.length_toList, toList_showInt]
  exact length_decimal_le habs

end Text

namespace Match

def Tally.InRange (t : Tally) : Prop := ∀ s, int64.Holds (t.get s)

theorem Tally.inRange_zero : Tally.zero.InRange := by
  intro s
  cases s <;> decide

theorem Tally.InRange.add {t u : Tally} {s : Stat} {n : Int} (h : t.InRange)
    (hadd : t.add s n = .ok u) : u.InRange := by
  obtain ⟨k, hk, hu⟩ := bind_eq_ok hadd
  obtain ⟨rfl, hsum⟩ := add_eq_ok hk
  cases hu
  intro r
  rw [Tally.get_set]
  split
  · exact hsum
  · exact h r

def InRange (m : Match) : Prop := ∀ t tally, m.teams.get? t = some tally → tally.InRange

theorem inRange_start (id : MatchId) (server : Server) (map : String) (createdAt : Instant) :
    (start id server map createdAt).InRange :=
  nofun

namespace InRange
variable {m : Match}

theorem of_teams {m' : Match} (h : m.InRange) (heq : m'.teams = m.teams) : m'.InRange := by
  intro t tally
  rw [heq]
  exact h t tally

theorem count (h : m.InRange) (c : Credit) : (m.count c).1.InRange := by
  cases c with
  | team t s n =>
    have hbefore : ((m.teams.get? t).getD .zero).InRange := by
      cases hrow : m.teams.get? t with
      | none => exact Tally.inRange_zero
      | some tally => exact h t tally hrow
    rw [Match.count]
    split
    next tally hadd =>
      intro t' tally' hrow
      rw [Table.get?_insert] at hrow
      split at hrow
      · cases hrow
        exact hbefore.add hadd
      · exact h t' tally' hrow
    next => exact h
  | player p s n =>
    simp only [Match.count, enroll]
    split
    · split <;> exact h.of_teams rfl
    · exact h

theorem countAll (h : m.InRange) (cs : List Credit) : (m.countAll cs).1.InRange := by
  induction cs generalizing m with
  | nil => exact h
  | cons c cs ih =>
    have hc := h.count c
    rw [Match.countAll]
    split
    next m' hm =>
      rw [hm] at hc
      exact ih hc
    next m' o hm =>
      rw [hm] at hc
      exact hc

theorem perform (h : m.InRange) (eff : Effect) : (m.perform eff).1.InRange := by
  cases eff with
  | credit cs => exact h.countAll cs
  | rename map => exact h.of_teams rfl
  | openRound startedAt => exact h.of_teams rfl
  | closeRound endedAt winner score => exact h.of_teams rfl

/-- An event leaves the totals in range, whether it is accepted or not. -/
theorem apply (h : m.InRange) (e : Event) : (m.apply e).1.InRange := by
  unfold Match.apply
  split
  · exact h
  · split
    next => exact h
    next eff _ =>
      have hperform := h.perform eff
      split
      next m' hm =>
        rw [hm] at hperform
        exact hperform
      next m' o hm =>
        rw [hm] at hperform
        exact hperform

theorem after (h : m.InRange) (es : List Event) : (m.after es).InRange := by
  induction es generalizing m with
  | nil => exact h
  | cons e es ih => exact ih (h.apply e)

theorem absorb (h : m.InRange) (e : Event) : (m.absorb [e]).InRange := by
  obtain heq | ⟨eff, -, heq⟩ := absorb_eq_or m e
  · rwa [heq]
  · rw [heq]
    exact h.perform eff

end InRange

theorem Book.inRange_of_mem_sealedBy {steps : List Step} {result : Sealed}
    (h : result ∈ Book.empty.sealedBy steps) : ∃ m now, InRange m ∧ result = m.finish now :=
  forall_sealedBy (P := InRange) (b := .empty) inRange_start (fun _ e hm => hm.absorb e) nofun
    result h

def rowFields (t : Team) (tally : Tally) : List Field :=
  [⟨t.label ++ " Kills", showInt tally.kills, true⟩,
    ⟨t.label ++ " Damage", showInt tally.damage, true⟩,
    ⟨t.label ++ " Ubers/Drops", showInt tally.charges ++ "/" ++ showInt tally.drops, true⟩]

def Sealed.fields (s : Sealed) (red blu : Int) (now : Instant) : List Field :=
  s.teams.flatMap (fun (t, tally) => rowFields t tally) ++
    [⟨"Red Score", showInt red, true⟩, ⟨"Blu Score", showInt blu, true⟩,
      ⟨"Duration", minutes (s.elapsed now), true⟩]

theorem foldl_addTeam (e : Embed) (rows : List (Team × Tally)) :
    rows.foldl (fun e (t, tally) => addTeam e t tally) e =
      e.pushAll (rows.flatMap fun (t, tally) => rowFields t tally) := by
  rw [Embed.pushAll, List.foldl_flatMap]
  rfl

theorem length_minutes_le (d : Span) : (minutes d).length ≤ 357 := by
  rw [minutes, String.length_append, String.length_ofList]
  exact Nat.add_le_add_right (Double.length_twoPlaces_le _) 8

theorem minutes_ne_empty (d : Span) : minutes d ≠ "" := by
  rw [minutes, ne_eq, String.append_eq_empty_iff]
  exact fun h => absurd h.2 (by decide)

theorem isShown_of {name value : String} (hname : name ≠ "" ∧ name.length ≤ 256)
    (hvalue : value ≠ "" ∧ value.length ≤ 1024) : Field.IsShown ⟨name, value, true⟩ :=
  ⟨hname.1, hvalue.1, hname.2, hvalue.2⟩

theorem isShown_showInt {name : String} {n : Int} (hname : name ≠ "" ∧ name.length ≤ 256)
    (h : int64.Holds n) : Field.IsShown ⟨name, showInt n, true⟩ :=
  isShown_of hname ⟨showInt_ne_empty n, Nat.le_trans (length_showInt_le h) (by decide)⟩

theorem isShown_rowFields {t : Team} {tally : Tally} (h : tally.InRange) :
    ∀ f ∈ rowFields t tally, f.IsShown := by
  have hname : ∀ what ∈ [" Kills", " Damage", " Ubers/Drops"],
      t.label ++ what ≠ "" ∧ (t.label ++ what).length ≤ 256 := by
    cases t <;> decide
  have hpair : (showInt tally.charges ++ "/" ++ showInt tally.drops).length ≤ 20 + 1 + 20 := by
    rw [String.length_append, String.length_append]
    exact Nat.add_le_add (Nat.add_le_add_right (length_showInt_le (h .charges)) 1)
      (length_showInt_le (h .drops))
  intro f hf
  simp only [rowFields, List.mem_cons, List.not_mem_nil, or_false] at hf
  rcases hf with rfl | rfl | rfl
  · exact isShown_showInt (hname _ (by simp)) (h .kills)
  · exact isShown_showInt (hname _ (by simp)) (h .damage)
  · refine isShown_of (hname _ (by simp)) ⟨?_, Nat.le_trans hpair (by decide)⟩
    simp [String.append_eq_empty_iff]

namespace Sealed
variable {s : Sealed} {red blu : Int} {now dated : Instant} {externalUrl : String}

theorem isShown_fields (hteams : ∀ row ∈ s.teams, row.2.InRange) (hred : int64.Holds red)
    (hblu : int64.Holds blu) : ∀ f ∈ s.fields red blu now, f.IsShown := by
  intro f hf
  obtain hf | hf := List.mem_append.1 hf
  · obtain ⟨row, hrow, hf⟩ := List.mem_flatMap.1 hf
    exact isShown_rowFields (hteams row hrow) f hf
  · simp only [List.mem_cons, List.not_mem_nil, or_false] at hf
    rcases hf with rfl | rfl | rfl
    · exact isShown_showInt (by decide) hred
    · exact isShown_showInt (by decide) hblu
    · exact isShown_of (by decide)
        ⟨minutes_ne_empty _, Nat.le_trans (length_minutes_le _) (by decide)⟩

theorem length_fields (s : Sealed) (red blu : Int) (now : Instant) :
    (s.fields red blu now).length = s.teams.length * 3 + 3 := by
  simp [fields, rowFields, List.length_flatMap]

def heading (s : Sealed) (dated : Instant) (externalUrl : String) : Embed :=
  ((Embed.titled ("Match #" ++ s.id.text ++ " - " ++ s.server.name ++ " - " ++ s.map) .green
    dated).describe "Match results").link (externalUrl ++ "/log/" ++ s.id.text)

theorem embed_eq_ok {e : Embed} (h : s.embed now dated externalUrl = .ok e) :
    ∃ red blu, s.redScore = .ok red ∧ s.bluScore = .ok blu ∧
      e = (s.heading dated externalUrl).pushAll (s.fields red blu now) := by
  obtain ⟨red, hred, h⟩ := bind_eq_ok h
  obtain ⟨blu, hblu, h⟩ := bind_eq_ok h
  cases h
  refine ⟨red, blu, hred, hblu, ?_⟩
  rw [fields, Embed.pushAll_append, ← foldl_addTeam]
  rfl

end Sealed

theorem AddsUp.holds {ns : List Int} {score : Except Overflow Int} {n : Int}
    (h : AddsUp ns score) (hscore : score = .ok n) : int64.Holds n := by
  obtain ⟨rfl, hsums⟩ := (h.iff n).1 hscore
  obtain ⟨hlow, hhigh⟩ : int32.Holds (sum ns) := by simpa using hsums ns.length
  exact ⟨Int.le_trans (by decide) hlow, Int.le_trans hhigh (by decide)⟩

/-- The teams that have a row, in their order. -/
theorem map_fst_teams (m : Match) :
    m.teams.entries.map (·.1) = Team.all.filter fun t => (m.teams.get? t).isSome := by
  have hentries : m.teams.entries =
      Team.all.filterMap fun t => (m.teams.get? t).map fun tally => (t, tally) :=
    m.teams.entries_eq_filterMap (by decide) fun t => by cases t <;> decide
  rw [hentries, List.map_filterMap, ← List.filterMap_eq_filter]
  refine List.filterMap_congr fun t _ => ?_
  cases hrow : m.teams.get? t <;> simp [hrow, Option.guard]

/-- What is announced of a match: three fields for each team, in the order of teams, the points of
both sides, and the time. There is an announcement exactly if the points add up. -/
structure Sealed.IsSummarized (s : Sealed) : Prop where
  rows : (s.teams.map (·.1)).Sublist Team.all
  announced : ∀ now dated externalUrl, (∃ e, s.embed now dated externalUrl = .ok e) ↔
    ∀ side ∈ [Score.red, Score.blu], ∀ k, int32.Holds (sum ((points s.rounds side).take k))
  natural : (∀ side ∈ [Score.red, Score.blu], (∀ n ∈ points s.rounds side, 0 ≤ n) ∧
      int32.Holds (sum (points s.rounds side))) →
    ∀ now dated externalUrl, ∃ e, s.embed now dated externalUrl = .ok e
  complete : ∀ now dated externalUrl e, s.embed now dated externalUrl = .ok e →
    e.fields = s.fields (sum (points s.rounds Score.red)) (sum (points s.rounds Score.blu)) now

/-- All that is to be shown of a finished match is short enough, and there is room for it. -/
theorem isSummarized_finish {m : Match} (h : m.InRange) (sealedAt : Instant) :
    (m.finish sealedAt).IsSummarized := by
  set s := m.finish sealedAt
  have hrows : (s.teams.map (·.1)).Sublist Team.all := by
    change (m.teams.entries.map (·.1)).Sublist Team.all
    rw [map_fst_teams]
    exact List.filter_sublist
  have hred : AddsUp (points s.rounds Score.red) s.redScore := addsUp_total s Score.red
  have hblu : AddsUp (points s.rounds Score.blu) s.bluScore := addsUp_total s Score.blu
  refine ⟨hrows, fun now dated externalUrl => ⟨?_, fun hsums => ?_⟩, fun hnatural => ?_, ?_⟩
  · rintro ⟨e, he⟩
    obtain ⟨red, blu, hr, hb, -⟩ := Sealed.embed_eq_ok he
    simpa using ⟨((hred.iff red).1 hr).2, ((hblu.iff blu).1 hb).2⟩
  · obtain ⟨hr, hb⟩ : (∀ k, int32.Holds (sum ((points s.rounds Score.red).take k))) ∧
        ∀ k, int32.Holds (sum ((points s.rounds Score.blu).take k)) := by simpa using hsums
    exact Sealed.exists_embed ((hred.iff _).2 ⟨rfl, hr⟩) ((hblu.iff _).2 ⟨rfl, hb⟩) ..
  · have hr := hnatural Score.red (by simp)
    have hb := hnatural Score.blu (by simp)
    exact Sealed.exists_embed (hred.natural hr.1 hr.2) (hblu.natural hb.1 hb.2)
  · intro now dated externalUrl e he
    obtain ⟨red, blu, hr, hb, rfl⟩ := Sealed.embed_eq_ok he
    have hteams : ∀ row ∈ s.teams, row.2.InRange := fun row hrow =>
      h row.1 row.2 (Table.mem_entries_iff.1 hrow)
    have hcount : (s.teams.map (·.1)).length ≤ 4 := hrows.length_le
    rw [List.length_map] at hcount
    have hroom : 0 + (s.fields red blu now).length ≤ 25 := by
      rw [Nat.zero_add, Sealed.length_fields]
      omega
    obtain rfl := ((hred.iff red).1 hr).1
    obtain rfl := ((hblu.iff blu).1 hb).1
    exact Embed.fields_pushAll_of_isShown hroom
      (Sealed.isShown_fields hteams (hred.holds hr) (hblu.holds hb))

end Match
end Moderation
