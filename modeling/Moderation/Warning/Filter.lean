import Moderation.Pattern.Machine
import Moderation.Store.Basic
import Moderation.Text.Lowercase
/-!
Word filters. A filter is a pattern, or words that must follow each other in a message. Words are
the runs of letters and digits of the text in lower case. The first filter that matches counts.
-/
namespace Moderation.Warning
open Text

/-- The longest runs of letters and digits; `word` is the one under way, in reverse. -/
def runs (word : List Char) : List Char → List (List Char)
  | [] => if word.isEmpty then [] else [word.reverse]
  | c :: s =>
    if isAlphanumeric c then runs (c :: word) s
    else if word.isEmpty then runs [] s
    else word.reverse :: runs [] s

/-- A character that is no letter or digit ends a run. -/
theorem runs_append_cons {c : Char} (h : isAlphanumeric c = false) (word s t : List Char) :
    runs word (s ++ c :: t) = runs word s ++ runs [] t := by
  induction s generalizing word with
  | nil => by_cases hw : word.isEmpty <;> simp [runs, h, hw]
  | cons d s ih =>
    by_cases hd : isAlphanumeric d <;> by_cases hw : word.isEmpty <;> simp [runs, hd, hw, ih]

def words (s : String) : List (List Char) := runs [] (lower s.toList)

/-- Whether words follow each other somewhere among others. -/
def occursIn (ws : List (List Char)) : List (List Char) → Bool
  | [] => ws.isEmpty
  | x :: xs => ws.isPrefixOf (x :: xs) || occursIn ws xs

inductive Matcher where
  | pattern (p : Pattern)
  | words (ws : List (List Char))

def Matcher.ofRecord? (r : FilterRecord) : Option Matcher :=
  if r.isRegex then (Pattern.ofText? r.pattern).map .pattern
  else
    let ws := Warning.words r.pattern
    if ws.isEmpty then none else some (.words ws)

/-- The part of a message that matches; `all` are its words. -/
def Matcher.find? (message : String) (all : List (List Char)) : Matcher → Option String
  | .pattern p => p.find? message
  | .words ws =>
    if occursIn ws all then some (" ".intercalate (ws.map String.ofList)) else none

structure Filter where
  id : Int
  pattern : String
  matcher : Matcher

def Filter.ofRecord? (r : FilterRecord) : Option Filter :=
  if r.isEnabled then (Matcher.ofRecord? r).map (⟨r.id, r.pattern, ·⟩) else none

def filtersOf (rs : List FilterRecord) : List Filter := rs.filterMap Filter.ofRecord?

structure Found where
  filterId : Int
  pattern : String
  matched : String
  deriving DecidableEq

/-- What the first filter that matches a message found. -/
def find? (filters : List Filter) (message : String) : Option Found :=
  let all := words message
  filters.findSome? fun f =>
    (f.matcher.find? message all).map (⟨f.id, f.pattern, ·⟩)

end Moderation.Warning
