import Moderation.Proofs.Ingest.Order
import Moderation.Proofs.Log.Line
import Moderation.Proofs.Match.Rounds
/-!
The rounds of matches made of a log. The events of known kind are in order even before the first
clean line, and so are those of them that are delivered.
-/
namespace Moderation.Ingest
open Log Match Number Time

theorem InOrder.knownTimes {es : List Event} (h : InOrder es) :
    (knownTimes es).Pairwise (· ≤ ·) :=
  List.pairwise_map.2 (h.filter _)

/-- Lines that fail give events of unknown kind, and the others keep the times in order. -/
theorem Ingestor.Goes.knownTimes_published {i : Ingestor} {rs : List Reading} {es : List Entry}
    {result : Except Overflow Ingestor} (h : Goes i rs es result) :
    (knownTimes (published es)).Pairwise (· ≤ ·) := by
  induction h with
  | done i => exact .nil
  | stops i rs h => exact .nil
  | next h he hes ih =>
    cases he with
    | fails hc =>
      have hk := kind_of_failure h (Standing.of_eq_failed.1 hc)
      rw [published_cons_of_ne (by simp), knownTimes_cons_of_unknown (by exact hk)]
      exact ih
    | ignores hc =>
      rw [published_cons_of_ignored rfl]
      exact ih
    | moves hc hs =>
      obtain ⟨horder, hlater⟩ := hes.inOrder_of_seen rfl
      rw [published_cons_of_ne (by rcases hs with rfl | rfl <;> simp)]
      exact InOrder.knownTimes (.cons hlater horder)

theorem knownTimes_sublist {es fs : List Event} (h : es.Sublist fs) :
    (knownTimes es).Sublist (knownTimes fs) :=
  (h.filter _).map _

/-- Whatever the lines and whichever events are lost, no round of a sealed match ends before its
start, or starts or ends before the end of an earlier one. -/
theorem successive_rounds (batches : List (List Reading)) (steps : List Step)
    (h : (steps.map (·.event)).Sublist (published (ingested batches))) :
    ∀ result ∈ Book.empty.sealedBy steps, Successive result.rounds := by
  have hgoes := Ingestor.follow_goes .fresh batches.flatten
  rw [← Ingestor.flatten_followAll] at hgoes
  have horder : (knownTimes (steps.map (·.event))).Pairwise (· ≤ ·) :=
    hgoes.knownTimes_published.sublist (knownTimes_sublist h)
  exact (Book.onTime_empty _).sealedBy horder

/-- A line that fails, a match with a round start that is repeated at an earlier time, and another
match with a round end at a time before its start. -/
def twoMatches : List Reading :=
  ["L 03/01/2024 - 20:00:30: World triggered \"Round_Win\"",
    "L 03/01/2024 - 20:00:00: Loading map \"cp_badlands\"",
    "L 03/01/2024 - 20:00:10: World triggered \"Round_Start\"",
    "L 03/01/2024 - 20:00:05: World triggered \"Round_Start\"",
    "L 03/01/2024 - 20:00:15: World triggered \"Round_Win\" (winner \"Red\")",
    "L 03/01/2024 - 20:00:20: World triggered \"Round_Start\"",
    "L 03/01/2024 - 20:00:25: World triggered \"Round_Win\" (winner \"Blue\")",
    "L 03/01/2024 - 20:00:40: Log file closed.",
    "L 03/01/2024 - 20:00:35: Loading map \"cp_process\"",
    "L 03/01/2024 - 20:00:50: World triggered \"Round_Start\"",
    "L 03/01/2024 - 20:00:45: World triggered \"Round_Win\" (winner \"Red\")",
    "L 03/01/2024 - 20:00:55: World triggered \"Game_Over\" reason \"Reached Win Limit\""].map
      (⟨⟨0, 0⟩, ⟨1, "srv-1"⟩, ·⟩)

/-- What is handled of these matches if the third round start is lost. -/
def delivered : List Step :=
  ((published (ingested [twoMatches])).eraseIdx 5).map (⟨⟨0⟩, ⟨0⟩, ·⟩)

theorem successive_rounds_twoMatches :
    (delivered.map (·.event)).Sublist (published (ingested [twoMatches])) ∧
    (Book.empty.sealedBy delivered).map
      (·.rounds.map fun r => (r.startedAt.map (·.second), r.endedAt.second)) =
      [[(some 1709323210, 1709323215), (none, 1709323225)], [(some 1709323250, 1709323250)]] ∧
    ∀ result ∈ Book.empty.sealedBy delivered, Successive result.rounds := by
  have h : (delivered.map (·.event)).Sublist (published (ingested [twoMatches])) := by
    have hevents : delivered.map (·.event) = (published (ingested [twoMatches])).eraseIdx 5 := by
      simp [delivered, Function.comp_def]
    rw [hevents]
    exact List.eraseIdx_sublist ..
  exact ⟨h, by decide +kernel, successive_rounds [twoMatches] delivered h⟩

end Moderation.Ingest
