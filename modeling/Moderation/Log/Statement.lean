import Moderation.Log.Property
import Moderation.Text.Blank
/-!
Statements: what the body of a log line says, before its fields are read as values. The forms are
tried in the order of the constructors. A form that ends the line has no line break in its last
part.
-/
namespace Moderation.Log
open Text

inductive Statement where
  | said (speaker : Tag) (toTeam : Bool) (message : List Char)
  | joined (player : Tag) (address : List Char)
  | killed (attacker victim : Tag) (weapon rest : List Char)
  | triggeredAgainst (actor : Tag) (what : List Char) (other : Tag) (rest : List Char)
  | triggered (actor : Tag) (what rest : List Char)
  | worldTriggered (what rest : List Char)
  | loading (map : List Char)
  | logStarted
  | logClosed
  | noise
  | other

namespace Statement

def isOneLine (s : List Char) : Bool := s.all (· ≠ '\n')

/-- A text in quotes that fills the line; it may hold quotes itself. -/
def closing? (s : List Char) : Option (List Char) := do
  let message ← dropSuffix? ['"'] (← dropPrefix? ['"'] s)
  if isOneLine message then some message else none

def restOfLine? (s : List Char) : Option (List Char) := if isOneLine s then some s else none

def word? (s : List Char) : Option (List Char × List Char) := do
  let (w, s) ← quoted? (← dropPrefix? ['"'] s)
  if w.isEmpty then none else some (w, s)

/-- The first tag, from the shortest name on, after which the text goes on as `next` asks. -/
def tagged? {α : Type} (s : List Char) (next : Tag → List Char → Option α) : Option α :=
  (splits s).findSome? fun (t, s) => next t s

def said? (s : List Char) : Option Statement :=
  tagged? s fun t s =>
    match (dropPrefix? " say ".toList s).bind closing? with
    | some m => some (.said t false m)
    | none => ((dropPrefix? " say_team ".toList s).bind closing?).map (.said t true)

def joined? (s : List Char) : Option Statement :=
  tagged? s fun t s => do
    let (a, _) ← quoted? (← dropPrefix? " connected, address \"".toList s)
    return .joined t a

def killed? (s : List Char) : Option Statement :=
  tagged? s fun a s => do
    tagged? (← dropPrefix? " killed ".toList s) fun v s => do
      let (w, s) ← quoted? (← dropPrefix? " with \"".toList s)
      return .killed a v w (← restOfLine? s)

def triggeredAgainst? (s : List Char) : Option Statement :=
  tagged? s fun a s => do
    let (w, s) ← word? (← dropPrefix? " triggered ".toList s)
    tagged? (← dropPrefix? " against ".toList s) fun v s =>
      (restOfLine? s).map (.triggeredAgainst a w v)

def triggered? (s : List Char) : Option Statement :=
  tagged? s fun a s => do
    let (w, s) ← word? (← dropPrefix? " triggered ".toList s)
    (restOfLine? s).map (.triggered a w)

def worldTriggered? (s : List Char) : Option Statement := do
  let (w, s) ← word? (← dropPrefix? "World triggered ".toList s)
  (restOfLine? s).map (.worldTriggered w)

def loading? (s : List Char) : Option Statement := do
  let (m, _) ← word? (← dropPrefix? "Loading map ".toList s)
  return .loading m

def startsWith (p : String) (s : List Char) : Bool := (dropPrefix? p.toList s).isSome

def noiseMarks : List String := ["server_cvar:", "rcon from", "[META]", "Team \"", "Started map"]

def lifecycle (s : List Char) : Statement :=
  if startsWith "Log file started" s then .logStarted
  else if startsWith "Log file closed" s || startsWith "server_message: \"quit\"" s then .logClosed
  else if noiseMarks.any (startsWith · s) then .noise
  else .other

def ofBody (s : List Char) : Statement :=
  (said? s <|> joined? s <|> killed? s <|> triggeredAgainst? s <|> triggered? s <|>
    worldTriggered? s <|> loading? s).getD (lifecycle s)

end Statement

/-- The text of the reason in a line about the end of a game: the first one that is complete. -/
def reason? (s : List Char) : Option (List Char) :=
  match (dropPrefix? "reason \"".toList s).bind quoted? with
  | some (r, _) => some r
  | none => match s with
    | [] => none
    | _ :: s => reason? s

def header? (s : List Char) : Option (List Char × List Char) := do
  let s ← dropPrefix? ['L', ' '] s
  let time := s.take 21
  let shape := "dd/dd/dddd - dd:dd:dd".toList
  let fits := time.length = 21 ∧
    (time.zip shape).all fun (c, m) => if m = 'd' then isDecimalDigit c else c = m
  let body ← dropPrefix? [':', ' '] (s.drop 21)
  if fits ∧ Statement.isOneLine body then some (time, body) else none

/-- A line without line breaks at its end and null characters at its start. -/
def tidy (s : List Char) : List Char :=
  (dropEndWhile (fun c => c = '\r' || c = '\n') s).dropWhile (· = Char.ofNat 0)

end Moderation.Log
