import Moderation.Ban.Request
import Moderation.Match.Basic
import Moderation.Time.Amount
/-!
The store: lists of records that only grow, except that the trigger count of a word filter is
raised. Every write either happens as a whole or leaves the store as it is.
-/
namespace Moderation
open Net Time

structure ChatRecord where
  steamId : SteamId
  serverId : Int
  name : String
  message : String
  teamOnly : Bool
  createdAt : Stamp
  deriving DecidableEq

structure ConnectionRecord where
  steamId : SteamId
  serverId : Int
  name : String
  address : Option IpAddress
  createdAt : Stamp
  deriving DecidableEq

structure FilterRecord where
  id : Int
  pattern : String
  isRegex : Bool
  isEnabled : Bool
  triggerCount : Int
  deriving DecidableEq

structure ServerRecord where
  id : Int
  name : String
  address : String
  port : Int
  password : String
  isEnabled : Bool
  deriving DecidableEq

inductive StoreError where
  | duplicate
  | notFound
  | timeout (limit : Span)
  | database (text : String)
  deriving DecidableEq

def StoreError.message : StoreError → String
  | .duplicate => "record already exists"
  | .notFound => "record not found"
  | .timeout limit => "store call exceeded " ++ limit.amount
  | .database text => "database error: " ++ text

structure Store where
  finished : List Match.Sealed
  chat : List ChatRecord
  connections : List ConnectionRecord
  bans : List Ban.Record
  filters : List FilterRecord
  servers : List (String × ServerRecord)

namespace Store

def empty : Store := ⟨[], [], [], [], [], []⟩

inductive Write where
  | saveMatch (m : Match.Sealed)
  | appendChat (r : ChatRecord)
  | appendConnection (r : ConnectionRecord)
  | countTrigger (filterId : Int)
  | applyBan (r : Ban.Record)

def raise (id : Int) : List FilterRecord → Option (List FilterRecord)
  | [] => none
  | f :: fs =>
    if f.id = id then some ({ f with triggerCount := f.triggerCount + 1 } :: fs)
    else (raise id fs).map (f :: ·)

def write (s : Store) : Write → Except StoreError Store
  | .saveMatch m => .ok { s with finished := s.finished ++ [m] }
  | .appendChat r => .ok { s with chat := s.chat ++ [r] }
  | .appendConnection r => .ok { s with connections := s.connections ++ [r] }
  | .countTrigger id => match raise id s.filters with
    | some fs => .ok { s with filters := fs }
    | none => .error .notFound
  | .applyBan r =>
    if s.bans.any (·.key = r.key) then .error .duplicate
    else .ok { s with bans := s.bans ++ [r] }

def server (s : Store) (id : Int) : Except StoreError ServerRecord :=
  match s.servers.find? (·.2.id = id) with
  | some (_, r) => .ok r
  | none => .error .notFound

def serverOfToken? (s : Store) (hash : String) : Option ServerRecord :=
  (s.servers.find? (·.1 = hash)).map (·.2)

def triggerCount (s : Store) (id : Int) : Int :=
  ((s.filters.find? (·.id = id)).map (·.triggerCount)).getD 0

end Store

/-- How a service that is called behaves at present: how long a call takes and whether it fails
after that time. -/
structure Fault where
  delay : Span
  failing : Bool

namespace Fault

def none : Fault := ⟨.zero, false⟩

def unavailable : StoreError := .database "unavailable"

def call {α : Type} (f : Fault) (limit : Span) (run : Except StoreError α) : Except StoreError α :=
  if limit < f.delay then .error (.timeout limit)
  else if f.failing then .error unavailable
  else run

/-- A write under a time limit; the store stays as it is unless the write succeeds. -/
def write (f : Fault) (limit : Span) (s : Store) (w : Store.Write) :
    Except StoreError Unit × Store :=
  match f.call limit (s.write w) with
  | .ok s => (.ok (), s)
  | .error e => (.error e, s)

end Fault
end Moderation
