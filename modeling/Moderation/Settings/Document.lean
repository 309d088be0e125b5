import Moderation.Event.Document
import Moderation.Settings.Basic
/-!
Settings as a JSON document. Lengths of time are in milliseconds or seconds, as their names say.
-/
namespace Moderation
open Json Time

def Settings.warningMembers (s : Settings) : List (String × Json) := [
  ("limit", .integer s.warningLimit), ("timeout_ms", .integer s.warningTimeout.millis),
  ("sweep_interval_ms", .integer s.sweepInterval.millis),
  ("exceeded_action", .string s.warningAction.name),
  ("exceeded_duration_ms", ofOption (fun d => .integer (Span.millis d)) s.warningLength.span?)]

def Settings.toJson (s : Settings) : Json := .object <|
  [("database_url", .string s.databaseUrl), ("port", .integer s.port),
    ("environment", .string s.environment), ("owner_steam_id", s.owner.toJson),
    ("external_url", .string s.externalUrl), ("filter_enabled", .bool s.filterEnabled),
    ("unhandled_log_path", ofOption Json.string s.unhandledLogPath),
    ("discord_mod_log_webhook", ofOption Json.string s.modLogWebhook),
    ("discord_match_log_webhook", ofOption Json.string s.matchLogWebhook),
    ("bus_queue_capacity", .integer s.busQueueCapacity),
    ("ingest_queue_capacity", .integer s.ingestQueueCapacity),
    ("notify_queue_capacity", .integer s.noticeQueueCapacity),
    ("worker_pool_size", .integer s.workers),
    ("worker_queue_capacity", .integer s.workerQueueCapacity),
    ("store_timeout_secs", .integer s.storeTimeoutSeconds),
    ("shutdown_grace_secs", .integer s.shutdownGraceSeconds)] ++
  s.warningMembers.map fun (k, v) => ("warning_" ++ k, v)

end Moderation
