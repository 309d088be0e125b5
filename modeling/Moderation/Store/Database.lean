import Moderation.Store.Basic
/-!
Failures of a relational database behind the store, as errors of the store.
-/
namespace Moderation

inductive DatabaseFailure where
  | rowNotFound
  | poolClosed
  /-- What the database itself reports; `unique` if a record would not have been unique. -/
  | reported (text : String) (unique : Bool)
  deriving DecidableEq

def DatabaseFailure.message : DatabaseFailure → String
  | .rowNotFound => "no rows returned by a query that expected to return at least one row"
  | .poolClosed => "attempted to acquire a connection on a closed pool"
  | .reported text _ => "error returned from database: " ++ text

def StoreError.ofDatabase : DatabaseFailure → StoreError
  | .rowNotFound => .notFound
  | .reported _ true => .duplicate
  | e => .database e.message

end Moderation
