import Moderation.Match.Document
import Moderation.Store.Basic
/-!
Records of the store as JSON documents.
-/
namespace Moderation
open Json Net Time

def ChatRecord.toJson (r : ChatRecord) : Json := .object [
  ("steam_id", r.steamId.toJson), ("server_id", .integer r.serverId), ("name", .string r.name),
  ("message", .string r.message), ("team_only", .bool r.teamOnly),
  ("created_at", r.createdAt.toJson)]

def ConnectionRecord.toJson (r : ConnectionRecord) : Json := .object [
  ("steam_id", r.steamId.toJson), ("server_id", .integer r.serverId), ("name", .string r.name),
  ("address", ofOption IpAddress.toJson r.address), ("created_at", r.createdAt.toJson)]

def Ban.Record.toJson (r : Ban.Record) : Json := .object [
  ("steam_id", r.target.toJson), ("author_id", r.authority.toJson),
  ("action", .string r.action.name), ("reason", .string r.reason.name), ("note", .string r.note),
  ("origin_server_id", ofOption Json.integer r.originId), ("bucket", r.bucket.toJson),
  ("valid_until", ofOption Instant.toJson r.validUntil), ("created_at", r.createdAt.toJson)]

end Moderation
