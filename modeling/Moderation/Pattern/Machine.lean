import Moderation.Pattern.Reader
/-!
Searching a text for a pattern. A pattern becomes a machine whose threads move over the text side
by side, in the order of preference; of two threads in one state the preferred one goes on.
-/
namespace Moderation.Pattern

inductive Instr where
  | done
  | set (s : Charset) (next : Nat)
  | look (condition : Look) (next : Nat)
  /-- Goes on at both states, at the first one by preference. -/
  | fork (first second : Nat)

abbrev Machine := Array Instr

namespace Machine

def add (m : Machine) (i : Instr) : Nat × Machine := (m.size, m.push i)

def copies (part : Nat → Machine → Nat × Machine) : Nat → Nat → Machine → Nat × Machine
  | 0, next, m => (next, m)
  | count + 1, next, m =>
    let (entry, m) := part next m
    copies part count entry m

def choice (greedy : Bool) (part exit : Nat) : Instr :=
  if greedy then .fork part exit else .fork exit part

/-- A part at least once: behind the part stands the choice to go back to its entry. -/
def loop (greedy : Bool) (part : Nat → Machine → Nat × Machine) (next : Nat) (m : Machine) :
    Nat × Nat × Machine :=
  let (hub, m) := m.add .done
  let (entry, m) := part hub m
  (entry, hub, m.setIfInBounds hub (choice greedy entry next))

/-- Up to `count` copies of a part, each of which may be left out together with those behind it. -/
def optional (greedy : Bool) (part : Nat → Machine → Nat × Machine) (exit : Nat) :
    Nat → Machine → Nat × Machine
  | 0, m => (exit, m)
  | count + 1, m =>
    let (next, m) := optional greedy part exit count m
    let (entry, m) := part next m
    m.add (choice greedy entry exit)

/-- Adds the states of a pattern that goes on at state `next`; gives its first state. -/
def emit : Node → Nat → Machine → Nat × Machine
  | .empty, next, m => (next, m)
  | .set s, next, m => m.add (.set s next)
  | .look l, next, m => m.add (.look l next)
  | .seq a b, next, m =>
    let (entry, m) := emit b next m
    emit a entry m
  | .alt a b, next, m =>
    let (first, m) := emit a next m
    let (second, m) := emit b next m
    m.add (.fork first second)
  | .repeated greedy min (some max) n, next, m =>
    let (entry, m) := optional greedy (emit n) next (max - min) m
    copies (emit n) min entry m
  | .repeated greedy 0 none n, next, m =>
    let (entry, hub, m) := loop greedy (emit n) next m
    if n.nullable then m.add (choice greedy entry next) else (hub, m)
  | .repeated greedy (min + 1) none n, next, m =>
    let (entry, _, m) := loop greedy (emit n) next m
    copies (emit n) min entry m

def ofNode (n : Node) : Nat × Machine := emit n 0 #[.done]

end Machine

structure Place where
  before : Option Char
  after : Option Char

namespace Place

def isWord (unicode : Bool) (c : Option Char) : Bool :=
  match c with
  | some c => if unicode then Text.isWordChar c else Text.isAsciiAlphanumeric c || c == '_'
  | none => false

def isBreak (c : Option Char) (b : Char) : Bool := c == some b

def satisfies (p : Place) : Look → Bool
  | .textStart => p.before.isNone
  | .textEnd => p.after.isNone
  | .lineStart => p.before.isNone || isBreak p.before '\n'
  | .lineEnd => p.after.isNone || isBreak p.after '\n'
  | .breakStart => p.before.isNone || isBreak p.before '\n' ||
      (isBreak p.before '\r' && !isBreak p.after '\n')
  | .breakEnd => p.after.isNone || isBreak p.after '\r' ||
      (isBreak p.after '\n' && !isBreak p.before '\r')
  | .word unicode kind =>
    let b := isWord unicode p.before
    let a := isWord unicode p.after
    match kind with
    | .edge => b != a
    | .noEdge => b == a
    | .start => !b && a
    | .finish => b && !a
    | .startHalf => !b
    | .finishHalf => !a

end Place

namespace Machine

/-- Follows threads from the given states to the states that take a character or are done, in order
of preference. A state that was seen at this place is not entered again. -/
def follow (m : Machine) (p : Place) :
    Nat → List Nat → Array Bool → List Nat → List Nat × Array Bool
  | 0, _, seen, out => (out, seen)
  | _ + 1, [], seen, out => (out, seen)
  | fuel + 1, k :: todo, seen, out =>
    if seen.getD k true then follow m p fuel todo seen out
    else
      let seen := seen.setIfInBounds k true
      match m.getD k .done with
      | .done => follow m p fuel todo seen (k :: out)
      | .set _ _ => follow m p fuel todo seen (k :: out)
      | .look l next =>
        follow m p fuel (if p.satisfies l then next :: todo else todo) seen out
      | .fork a b => follow m p fuel (a :: b :: todo) seen out

def threads (m : Machine) (p : Place) (states : List Nat) : List Nat :=
  (follow m p (2 * m.size + states.length + 1) states (Array.replicate m.size false) []).1.reverse

def advance (m : Machine) (c : Char) (ts : List Nat) : List Nat :=
  ts.filterMap fun k =>
    match m.getD k .done with
    | .set s next => if s.contains c.toNat then some next else none
    | _ => none

def isDone (m : Machine) (k : Nat) : Bool :=
  match m.getD k .done with
  | .done => true
  | _ => false

/-- Runs threads over a text. `taken` characters are behind them and `best` is the length of the
fit that is preferred so far. Threads behind one that is done are given up. -/
def run (m : Machine) (taken : Nat) (best : Option Nat) (before : Option Char)
    (states : List Nat) : List Char → Option Nat
  | [] =>
    if (m.threads ⟨before, none⟩ states).any m.isDone then some taken else best
  | c :: rest =>
    let ts := m.threads ⟨before, some c⟩ states
    let best := if ts.any m.isDone then some taken else best
    let next := m.advance c (ts.takeWhile fun k => !m.isDone k)
    if next.isEmpty then best else run m (taken + 1) best (some c) next rest

def search (m : Machine) (start : Nat) (before : Option Char) (s : List Char) :
    Option (List Char) :=
  match m.run 0 none before [start] s with
  | some length => some (s.take length)
  | none => match s with
    | [] => none
    | c :: rest => search m start (some c) rest

end Machine
end Moderation.Pattern

namespace Moderation
open Pattern

structure Pattern where
  start : Nat
  machine : Machine

namespace Pattern

def ofText? (s : String) : Option Pattern :=
  (Node.ofText? s).map fun n =>
    let (start, machine) := Machine.ofNode n
    ⟨start, machine⟩

def find? (p : Pattern) (s : String) : Option String :=
  (p.machine.search p.start none s.toList).map String.ofList

end Pattern
end Moderation
