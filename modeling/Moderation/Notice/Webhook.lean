import Moderation.Json.Basic
import Moderation.Notice.Embed
import Moderation.Notice.Status
import Moderation.Time.Rfc3339
/-!
Delivery of notices: the errors, and the JSON body that a webhook takes. What an embed lacks is
left out of the body.
-/
namespace Moderation.Notice
open Time

inductive NoticeError where
  | queueFull
  | closed
  | platform (text : String)
  deriving DecidableEq

def NoticeError.message : NoticeError → String
  | .queueFull => "notification queue full"
  | .closed => "notification queue closed"
  | .platform text => "chat platform error: " ++ text

def Field.toJson (f : Field) : Json :=
  .object [("name", .string f.name), ("value", .string f.value), ("inline", .bool f.inline)]

def Embed.toJson (e : Embed) : Json :=
  .object <|
    [("title", .string e.title), ("color", .integer e.color.rgb),
      ("fields", .array (e.fields.map Field.toJson))] ++
    (e.description.map fun d => ("description", .string d)).toList ++
    (e.url.map fun u => ("url", .string u)).toList ++
    (e.timestamp.map fun t => ("timestamp", .string (Stamp.ofInstant t).offsetText)).toList

def webhookBody (e : Embed) : Json := .object [("embeds", .array [e.toJson])]

def ofStatus (status : Nat) : Except NoticeError Unit :=
  if 200 ≤ status ∧ status < 300 then .ok ()
  else .error (.platform ("webhook returned " ++ statusText status))

end Moderation.Notice
