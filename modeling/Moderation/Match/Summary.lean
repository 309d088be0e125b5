import Moderation.Match.Basic
import Moderation.Notice.Embed
import Moderation.Number.Double
/-!
The announcement of a finished match: three fields for each team, the final score, and the time
since the match was created.
-/
namespace Moderation.Match
open Notice Number Text Time

/-- A length of time in minutes with two places. It is rounded to a double twice on the way: as
milliseconds and as minutes. -/
def minutes (d : Span) : String :=
  String.ofList ((Double.ofInt d.millis).div (.ofInt 60000)).twoPlaces ++ " Minutes"

def addTeam (e : Embed) (t : Team) (tally : Tally) : Embed :=
  ((e.addInline (t.label ++ " Kills") (showInt tally.kills)).addInline
    (t.label ++ " Damage") (showInt tally.damage)).addInline
    (t.label ++ " Ubers/Drops") (showInt tally.charges ++ "/" ++ showInt tally.drops)

def Sealed.embed (s : Sealed) (now dated : Instant) (externalUrl : String) :
    Except Overflow Embed := do
  let title := "Match #" ++ s.id.text ++ " - " ++ s.server.name ++ " - " ++ s.map
  let e := ((Embed.titled title .green dated).describe "Match results").link
    (externalUrl ++ "/log/" ++ s.id.text)
  let e := s.teams.foldl (fun e (t, tally) => addTeam e t tally) e
  let e := e.addInline "Red Score" (showInt (← s.redScore))
  let e := e.addInline "Blu Score" (showInt (← s.bluScore))
  return e.addInline "Duration" (minutes (s.elapsed now))

/-- A match whose scores add up has an announcement. -/
theorem Sealed.exists_embed {s : Sealed} {red blu : Int} (hred : s.redScore = .ok red)
    (hblu : s.bluScore = .ok blu) (now dated : Instant) (externalUrl : String) :
    ∃ e, s.embed now dated externalUrl = .ok e := by
  unfold embed
  rw [hred, hblu]
  exact ⟨_, rfl⟩

end Moderation.Match
