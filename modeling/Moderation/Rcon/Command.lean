import Moderation.Event.Basic
import Moderation.Store.Basic
/-!
Commands for running game servers, and why a server cannot be commanded. A text inside a command
stands in quotes; what would end it early is replaced.
-/
namespace Moderation.Rcon
open Time

def sanitizeChar (c : Char) : Char :=
  if c = '"' then '\''
  else if c = '\n' ∨ c = '\r' ∨ c = ';' then ' '
  else c

def sanitize (s : String) : String := String.ofList (s.toList.map sanitizeChar)

inductive Command where
  | kick (target : SteamId) (reason : String)
  | gag (target : SteamId)
  | psay (target : SteamId) (message : String)
  deriving DecidableEq

def quote (s : String) : String := "\"" ++ s ++ "\""

def Command.text : Command → String
  | .kick target reason => "sm_kick " ++ quote ("#" ++ target.steam3) ++ " " ++ quote (sanitize reason)
  | .gag target => "sm_gag " ++ quote ("#" ++ target.steam3)
  | .psay target message =>
    "sm_psay " ++ quote ("#" ++ target.steam3) ++ " " ++ quote (sanitize message)

inductive IoError where
  | unexpectedEof
  | connectionRefused
  | networkUnreachable
  deriving DecidableEq

def IoError.name : IoError → String
  | .unexpectedEof => "UnexpectedEof"
  | .connectionRefused => "ConnectionRefused"
  | .networkUnreachable => "NetworkUnreachable"

def IoError.message : IoError → String
  | .unexpectedEof => "early eof"
  | .connectionRefused => "refused"
  | .networkUnreachable => "Network is unreachable (os error 101)"

inductive ControlError where
  | lookup (cause : StoreError)
  | io (cause : IoError)
  | authRejected
  | protocol (text : String)
  | timeout (limit : Span)
  deriving DecidableEq

def ControlError.message : ControlError → String
  | .lookup cause => "server lookup failed: " ++ cause.message
  | .io cause => "rcon connection failed: " ++ cause.message
  | .authRejected => "rcon authentication rejected"
  | .protocol text => "malformed rcon packet: " ++ text
  | .timeout limit => "rcon call exceeded " ++ limit.amount

abbrev Sent := List (Int × Command)

/-- Gives a server a command, which is given up after a time limit. -/
def tell (f : Fault) (limit : Span) (sent : Sent) (server : Server) (c : Command) :
    Except ControlError Unit × Sent :=
  if limit < f.delay then (.error (.timeout limit), sent)
  else if f.failing then (.error (.io .connectionRefused), sent)
  else (.ok (), sent ++ [(server.id, c)])

end Moderation.Rcon
