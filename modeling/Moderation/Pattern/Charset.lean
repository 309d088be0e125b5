import Moderation.Text.Letter
import Moderation.Unicode.Case
/-!
Sets of characters as inclusive ranges of code points, in increasing order and apart from each
other, with the operations of a bracketed class, and the closure under simple case folding.
-/
namespace Moderation.Pattern
open Unicode

structure Charset where
  ranges : List (Nat × Nat)

namespace Charset

def top : Nat := 0x10FFFF

def contains (s : Charset) (n : Nat) : Bool := Text.inRanges s.ranges n

def empty : Charset := ⟨[]⟩

def range (first last : Nat) : Charset := ⟨[(first, last)]⟩

def single (n : Nat) : Charset := range n n

/-- Joins ranges that touch, given in the order of their starts. -/
def join : List (Nat × Nat) → List (Nat × Nat)
  | [] => []
  | r :: rest =>
    match join rest with
    | [] => [r]
    | s :: more => if s.1 ≤ r.2 + 1 then (r.1, max r.2 s.2) :: more else r :: s :: more

/-- The set of ranges in any order; a range whose start is behind its end has no members. -/
def ofRanges (rs : List (Nat × Nat)) : Charset :=
  ⟨join ((rs.filter fun r => r.1 ≤ r.2).mergeSort fun a b => a.1 ≤ b.1)⟩

def union (s t : Charset) : Charset := ofRanges (s.ranges ++ t.ranges)

def gaps (start : Nat) : List (Nat × Nat) → List (Nat × Nat)
  | [] => if start ≤ top then [(start, top)] else []
  | r :: rest =>
    if start < r.1 then (start, r.1 - 1) :: gaps (r.2 + 1) rest else gaps (r.2 + 1) rest

def complement (s : Charset) : Charset := ⟨gaps 0 s.ranges⟩

/-- The members in both sets: what is missing from neither. -/
def inter (s t : Charset) : Charset := (s.complement.union t.complement).complement

def diff (s t : Charset) : Charset := s.inter t.complement

def symmDiff (s t : Charset) : Charset := (s.diff t).union (t.diff s)

/-- The code points of a run from `n` on, each with its partner. -/
def runPairs (step : Nat) (shift : Int) (n : Nat) : Nat → List (List Nat)
  | 0 => []
  | count + 1 => [n, ((n : Int) + shift).toNat] :: runPairs step shift (n + step) count

def caseSets : List (List Nat) :=
  foldOrbits ++ foldRuns.flatMap fun r =>
    runPairs r.step r.shift r.first ((r.last - r.first) / r.step + 1)

def closeCase (s : Charset) : Charset :=
  let new := caseSets.filter fun o => o.any s.contains && !o.all s.contains
  if new.isEmpty then s else s.union (ofRanges (new.flatten.map fun n => (n, n)))

def closeAsciiCase (s : Charset) : Charset :=
  let lower := s.inter (range 97 122)
  let upper := s.inter (range 65 90)
  s.union (ofRanges (lower.ranges.map (fun r => (r.1 - 32, r.2 - 32)) ++
    upper.ranges.map fun r => (r.1 + 32, r.2 + 32)))

def isAscii (s : Charset) : Bool := s.ranges.all (·.2 < 128)

end Charset
end Moderation.Pattern
