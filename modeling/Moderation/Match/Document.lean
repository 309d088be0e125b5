import Moderation.Event.Document
import Moderation.Match.Book
/-!
Finished matches as JSON documents: the rounds in the order in which they ended, the teams and the
players in the order of their tables.
-/
namespace Moderation
open Json Time

def Time.Instant.toJson (t : Instant) : Json := (Stamp.ofInstant t).toJson

def Round.toJson (r : Round) : Json := .object [
  ("started_at", ofOption Stamp.toJson r.startedAt), ("ended_at", r.endedAt.toJson),
  ("winner", ofOption Team.toJson r.winner), ("score", r.score.toJson)]

namespace Match

def Tally.members (t : Tally) : List (String × Json) := [
  ("kills", .integer t.kills), ("deaths", .integer t.deaths), ("damage", .integer t.damage),
  ("healing", .integer t.healing), ("charges", .integer t.charges), ("drops", .integer t.drops)]

def teamRow (t : Team) (tally : Tally) : Json := .object (("team", t.toJson) :: tally.members)

def playerRow (id : SteamId) (l : Line) : Json :=
  .object (("steam_id", id.toJson) :: ("name", .string l.name) :: ("team", l.team.toJson) ::
    l.tally.members)

def Sealed.toJson (m : Sealed) : Json := .object [
  ("match_id", .string m.id.text), ("server", m.server.toJson), ("map_name", .string m.map),
  ("created_at", m.createdAt.toJson), ("sealed_at", m.sealedAt.toJson),
  ("rounds", .array (m.rounds.map Round.toJson)),
  ("team_sums", .array (m.teams.map fun (t, tally) => teamRow t tally)),
  ("player_sums", .array (m.players.map fun (id, l) => playerRow id l))]

def Transition.toJson : Transition → Json
  | .discarded => .string "discarded"
  | .created id => .object [("created", .string id.text)]
  | .applied => .string "applied"
  | .sealed m => .object [("sealed", m.toJson)]

end Match
end Moderation
