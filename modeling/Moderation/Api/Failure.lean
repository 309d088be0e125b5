import Moderation.Ingest.Router
import Moderation.Json.Basic
import Moderation.Store.Basic
import Moderation.Text.Quoted
/-!
Why a request to the service fails, the status and text that the client gets, and the report for
the operator. Clients are not told what is wrong inside.
-/
namespace Moderation.Api
open Ingest Text

inductive Failure where
  | unauthorized
  | forbidden
  | validation (text : String)
  | unavailable (text : String)
  | database (text : String)
  | internal (text : String)
  deriving DecidableEq

namespace Failure

def status : Failure → Nat
  | unauthorized => 401
  | forbidden => 403
  | validation _ => 400
  | unavailable _ => 503
  | database _ => 500
  | internal _ => 500

def publicText : Failure → String
  | unauthorized => "Authentication required"
  | forbidden => "Access denied"
  | validation text => text
  | unavailable _ => "Server busy, retry later"
  | database _ => "Database error occurred"
  | internal _ => "Internal server error"

def report : Failure → String
  | unauthorized => "Unauthorized"
  | forbidden => "Forbidden"
  | validation text => "ValidationError(" ++ quoted text ++ ")"
  | unavailable text => "ServiceUnavailable(" ++ quoted text ++ ")"
  | database text => "DatabaseError(" ++ quoted text ++ ")"
  | internal text => "InternalError(" ++ quoted text ++ ")"

/-- A call to the store that takes too long means that the service is busy. -/
def ofStore : StoreError → Failure
  | .timeout limit => unavailable (StoreError.timeout limit).message
  | e => database e.message

def ofIngest (e : IngestError) : Failure := unavailable e.message

def body (f : Failure) : Json :=
  .object [("error", .string f.publicText), ("status", .integer f.status)]

end Failure
end Moderation.Api
