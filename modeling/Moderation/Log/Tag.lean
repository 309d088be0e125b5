import Moderation.Text.Affix
import Moderation.Text.Letter
/-!
The way a log line names a player: `"name<number><steam id><team>"`. A name may hold anything but a
line break, so that a line can have several splits; they are listed from the shortest name on.
-/
namespace Moderation.Log
open Text

structure Tag where
  name : List Char
  number : List Char
  steam : List Char
  team : List Char
  deriving DecidableEq

def Tag.text (t : Tag) : List Char :=
  '"' :: t.name ++ '<' :: t.number ++ ['>', '<'] ++ t.steam ++ ['>', '<'] ++ t.team ++ ['>', '"']

/-- Splits a text at a mark that is not in the part before it. -/
def upTo? (mark : Char) (s : List Char) : Option (List Char × List Char) :=
  match s.dropWhile (· ≠ mark) with
  | _ :: rest => some (s.takeWhile (· ≠ mark), rest)
  | [] => none

theorem length_upTo? {mark : Char} {s a r : List Char} (h : upTo? mark s = some (a, r)) :
    r.length < s.length := by
  unfold upTo? at h
  split at h
  next hd =>
    have hs := congrArg List.length (List.takeWhile_append_dropWhile (p := (· ≠ mark)) (l := s))
    simp only [Option.some.injEq, Prod.mk.injEq] at h
    simp only [List.length_append] at hs
    rw [hd, h.2] at hs
    simp only [List.length_cons] at hs
    omega
  next => cases h

def fields? (name s : List Char) : Option (Tag × List Char) := do
  let s ← dropPrefix? ['<'] s
  let number := s.takeWhile isDecimalDigit
  let s ← dropPrefix? ['>', '<'] (s.drop number.length)
  let (steam, s) ← upTo? '>' s
  let s ← dropPrefix? ['<'] s
  let (team, s) ← upTo? '>' s
  let s ← dropPrefix? ['"'] s
  return (⟨name, number, steam, team⟩, s)

/-- The tags that a text can start with after its opening quote, each with what follows it. The
name so far is given in reverse. -/
def splitsAfter (name : List Char) : List Char → List (Tag × List Char)
  | [] => []
  | c :: s =>
    let here := if c = '<' then (fields? name.reverse (c :: s)).toList else []
    if c = '\n' then here else here ++ splitsAfter (c :: name) s

def splits : List Char → List (Tag × List Char)
  | '"' :: s => splitsAfter [] s
  | _ => []

end Moderation.Log
