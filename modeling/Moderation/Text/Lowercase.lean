import Moderation.Text.Affix
import Moderation.Text.Letter
import Moderation.Unicode.Case
/-!
Lower case. Each character has its own lower-case form, except that a capital sigma at the end of a
word becomes the final sigma.
-/
namespace Moderation.Text
open Unicode

/-- The lower-case form of a character by itself. Capital i with a dot keeps its dot. -/
def lowerChar (c : Char) : List Char :=
  if c.toNat < 128 then [asciiLower c]
  else if c.toNat = 0x130 then ['i', Char.ofNat 0x307]
  else match lowercaseRuns.findSome? (·.partner? c.toNat) with
    | some n => [Char.ofNat n]
    | none => [c]

def isCased (c : Char) : Bool := inRanges casedRanges c.toNat

def isCaseIgnorable (c : Char) : Bool := inRanges caseIgnorableRanges c.toNat

/-- Whether the first character that bears on case is a cased letter. -/
def startsCased (s : List Char) : Bool :=
  match s.dropWhile isCaseIgnorable with
  | c :: _ => isCased c
  | [] => false

/-- Lower case of a text, where `before` is what precedes it, the nearest character first. A capital
sigma is final after a cased letter if none follows. -/
def lowerAfter (before : List Char) : List Char → List Char
  | [] => []
  | c :: s =>
    (if c.toNat = 0x3A3 then
      if startsCased before && !startsCased s then [Char.ofNat 0x3C2] else [Char.ofNat 0x3C3]
    else lowerChar c) ++ lowerAfter (c :: before) s

def lower (s : List Char) : List Char := lowerAfter [] s

end Moderation.Text
