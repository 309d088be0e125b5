import Moderation.Match.Document
import Moderation.Notice.Webhook
/-!
Notices as JSON documents. What an embed lacks is null.
-/
namespace Moderation.Notice
open Json

def Embed.document (e : Embed) : Json := .object [
  ("title", .string e.title), ("description", ofOption Json.string e.description),
  ("url", ofOption Json.string e.url), ("color", .integer e.color.rgb),
  ("timestamp", ofOption Time.Instant.toJson e.timestamp),
  ("fields", .array (e.fields.map Field.toJson))]

def document (n : Notice) : Json :=
  .object [("channel", .string n.channel.name), ("embed", n.embed.document)]

end Moderation.Notice
