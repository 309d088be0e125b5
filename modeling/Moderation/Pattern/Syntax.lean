import Moderation.Pattern.Charset
/-!
Patterns: what a text is searched for. Of the ways in which a pattern fits a place, the one that its
order of alternatives and its greediness prefer is taken.
-/
namespace Moderation.Pattern

inductive WordEdge where
  | edge
  | noEdge
  | start
  | finish
  | startHalf
  | finishHalf
  deriving DecidableEq

inductive Look where
  | textStart
  | textEnd
  | lineStart
  | lineEnd
  | breakStart
  | breakEnd
  /-- An edge of words, whose characters are ASCII only unless `unicode`. -/
  | word (unicode : Bool) (kind : WordEdge)
  deriving DecidableEq

inductive Node where
  | empty
  | set (s : Charset)
  | look (condition : Look)
  | seq (first second : Node)
  | alt (first second : Node)
  /-- From `min` to `max` times, as often as possible if greedy. -/
  | repeated (greedy : Bool) (min : Nat) (max : Option Nat) (body : Node)

namespace Node

def seqAll : List Node → Node
  | [] => empty
  | [n] => n
  | n :: ns => seq n (seqAll ns)

def altAll : List Node → Node
  | [] => empty
  | [n] => n
  | n :: ns => alt n (altAll ns)

def nullable : Node → Bool
  | empty => true
  | set _ => false
  | look _ => true
  | seq a b => a.nullable && b.nullable
  | alt a b => a.nullable || b.nullable
  | repeated _ min _ n => min = 0 || n.nullable

/-- The bytes that a set takes in a machine over bytes: ranges of a few bytes each beyond ASCII. -/
def setCost (s : Charset) : Nat :=
  if s.isAscii then 64 + 8 * s.ranges.length else 160 + 64 * s.ranges.length

/-- An estimate of the bytes that a machine for the pattern takes, all repetitions written out. -/
def cost : Node → Nat
  | empty => 32
  | set s => setCost s
  | look _ => 32
  | seq a b => a.cost + b.cost
  | alt a b => a.cost + b.cost + 72
  | repeated _ min max n =>
    match max with
    | none => (Nat.max 1 min) * n.cost + 72
    | some m => m * n.cost + (m - min) * 40 + 32

end Node

def costLimit : Nat := 10 * Nat.pow 2 20

def nestingLimit : Nat := 250

end Moderation.Pattern
