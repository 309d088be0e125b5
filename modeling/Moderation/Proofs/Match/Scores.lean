import Moderation.Proofs.Match.Limits
import Moderation.Proofs.Match.Played
/-!
The scores of the matches that lines report. A line gives the points of a round to its winner, so
that the final score of a side is the number of rounds that it has won.
-/
namespace Moderation.Match
open Number Log

def Sealed.wins (s : Sealed) (t : Team) : Nat := s.rounds.countP (·.winner = some t)

structure CountsWins (s : Sealed) : Prop where
  red : s.redScore = .ok (s.wins .red)
  blu : s.bluScore = .ok (s.wins .blu)
  round : ∀ r ∈ s.rounds, r.score.red = (if r.winner = some .red then 1 else 0) ∧
    r.score.blu = if r.winner = some .blu then 1 else 0
  bounded : s.wins .red + s.wins .blu ≤ s.rounds.length

theorem pointsOf_eq (winner : Option Team) :
    pointsOf winner =
      ⟨if winner = some .red then 1 else 0, if winner = some .blu then 1 else 0⟩ := by
  rcases winner with _ | _ | _ | _ | _ <;> rfl

/-- Points that only one team gets, one for each round that it wins. -/
theorem sum_points {rs : List Round} {side : Score → Int} {t : Team}
    (h : ∀ r ∈ rs, side r.score = if r.winner = some t then 1 else 0) :
    sum (points rs side) = rs.countP (·.winner = some t) := by
  induction rs with
  | nil => rfl
  | cons r rs ih =>
    have hrest := ih fun x hx => h x (List.mem_cons_of_mem _ hx)
    rw [points] at hrest ⊢
    rw [List.map_cons, sum_cons, hrest, h r (List.mem_cons_self ..), List.countP_cons]
    by_cases hw : r.winner = some t <;> simp [hw, Int.add_comm]

theorem total_eq_wins {s : Sealed} {side : Score → Int} {t : Team}
    (h : ∀ r ∈ s.rounds, side r.score = if r.winner = some t then 1 else 0)
    (hfew : s.rounds.length < Nat.pow 2 31) : s.total side = .ok (s.wins t) := by
  have hsum : sum (points s.rounds side) = s.wins t := sum_points h
  have hle : s.wins t ≤ s.rounds.length := List.countP_le_length
  have hroom : (Nat.pow 2 31 : Int) = int32.high + 1 := by decide
  have hlow : int32.low ≤ 0 := by decide
  rw [← hsum]
  refine (addsUp_total s side).natural (fun n hn => ?_) ?_
  · obtain ⟨r, hr, rfl⟩ := List.mem_map.1 hn
    rw [h r hr]
    split <;> decide
  · rw [hsum]
    exact ⟨by omega, by omega⟩

/-- No round is won by two sides. -/
theorem wins_add_wins_le (s : Sealed) : s.wins .red + s.wins .blu ≤ s.rounds.length := by
  have hblu : s.wins .blu ≤
      s.rounds.countP fun r => decide ¬ decide (r.winner = some .red) = true :=
    List.countP_mono_left fun r _ hb => by
      rw [of_decide_eq_true hb]
      rfl
  calc
    s.wins .red + s.wins .blu
      ≤ s.wins .red + s.rounds.countP fun r => decide ¬ decide (r.winner = some .red) = true :=
        Nat.add_le_add_left hblu _
    _ = s.rounds.length := (List.length_eq_countP_add_countP _).symm

theorem countsWins_of_points {s : Sealed} (h : ∀ r ∈ s.rounds, r.score = pointsOf r.winner)
    (hfew : s.rounds.length < Nat.pow 2 31) : CountsWins s := by
  have hround : ∀ r ∈ s.rounds, r.score.red = (if r.winner = some .red then 1 else 0) ∧
      r.score.blu = if r.winner = some .blu then 1 else 0 := by
    intro r hr
    rw [h r hr, pointsOf_eq]
    exact ⟨rfl, rfl⟩
  exact {
    red := total_eq_wins (fun r hr => (hround r hr).1) hfew
    blu := total_eq_wins (fun r hr => (hround r hr).2) hfew
    round := hround
    bounded := wins_add_wins_le s }

/-- Whatever lines the events of a run come from, the score of every match that is sealed is the
number of rounds each side has won. -/
theorem countsWins_of_lines {steps : List Step} (hlines : ∀ s ∈ steps, s.event.IsReported) :
    ∀ result ∈ Book.empty.sealedBy steps, result.rounds.length < Nat.pow 2 31 →
      CountsWins result := by
  intro result hresult hfew
  obtain ⟨m, hm, hrounds⟩ := Book.scored_sealedBy (b := .empty) (n := 0) nofun hlines result hresult
  refine countsWins_of_points (fun r hr => hm.points r ?_) hfew
  rwa [hrounds]

/-- Rounds that are won by red, by blue, by nobody and by neither side. -/
def wonRounds : List Step :=
  stepsOf ["L 03/01/2024 - 20:00:01: Loading map \"ctf_2fort\"",
    "L 03/01/2024 - 20:00:02: World triggered \"Round_Win\" (winner \"Red\")",
    "L 03/01/2024 - 20:00:03: World triggered \"Round_Win\" (winner \"Blue\")",
    "L 03/01/2024 - 20:00:04: World triggered \"Round_Stalemate\"",
    "L 03/01/2024 - 20:00:05: World triggered \"Round_Win\" (winner \"Spectator\")",
    "L 03/01/2024 - 20:00:06: World triggered \"Round_Win\" (winner \"RED\")",
    "L 03/01/2024 - 20:00:07: World triggered \"Game_Over\" reason \"limit\""]

theorem countsWins_of_lines_wonRounds :
    (∀ s ∈ wonRounds, s.event.IsReported) ∧ ∃ result ∈ Book.empty.sealedBy wonRounds,
      result.rounds.map (·.winner) =
        [some .red, some .blu, none, some .spectator, some .red] ∧
      result.redScore = .ok 2 ∧ result.bluScore = .ok 1 := by
  have hlines : ∀ s ∈ wonRounds, s.event.IsReported := isReported_of_stepsOf _
  have hsealed : (Book.empty.sealedBy wonRounds).map (fun s => s.rounds.map (·.winner)) =
      [[some .red, some .blu, none, some .spectator, some .red]] := by
    decide +kernel
  obtain ⟨result, hresult, hwinners⟩ := List.map_eq_singleton_iff.1 hsealed
  have hmem : result ∈ Book.empty.sealedBy wonRounds := by simp [hresult]
  have hlen : result.rounds.length = 5 := by simpa using congrArg List.length hwinners
  have hcounts := countsWins_of_lines hlines result hmem (by rw [hlen]; decide)
  have hwins : ∀ t, result.wins t =
      [some .red, some .blu, none, some .spectator, some .red].countP (· = some t) := by
    intro t
    rw [← hwinners, List.countP_map]
    rfl
  refine ⟨hlines, result, hmem, hwinners, ?_, ?_⟩
  · rw [hcounts.red, hwins]
    rfl
  · rw [hcounts.blu, hwins]
    rfl

end Moderation.Match
