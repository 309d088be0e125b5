import Moderation.Match.Document
import Moderation.Warning.Filter
import Moderation.Warning.Tracker
/-!
Warnings as JSON documents.
-/
namespace Moderation.Warning
open Json Time

def toJson (w : Warning) : Json := .object [
  ("reason", .string w.reason.name), ("message", .string w.message), ("matched", .string w.matched),
  ("filter_id", .integer w.filterId), ("pattern", .string w.pattern),
  ("created_at", w.createdAt.toJson)]

def Outcome.toJson : Outcome → Json
  | .warned n => .object [("warned", .integer n)]
  | .escalated ws => .object [("escalated", .array (ws.map Warning.toJson))]

def Found.toJson (f : Found) : Json := .object [
  ("filter_id", .integer f.filterId), ("pattern", .string f.pattern), ("matched", .string f.matched)]

end Moderation.Warning
