import Moderation.Unicode.Letter
/-!
The classes of characters that chat and log lines are split by. Below 128 each is given by its
members, above by the tables of the standard.
-/
namespace Moderation.Text
open Unicode

def inRanges (ranges : List (Nat × Nat)) (n : Nat) : Bool :=
  ranges.any fun (first, last) => first ≤ n && n ≤ last

def isAsciiAlphanumeric (c : Char) : Bool :=
  let n := c.toNat
  (48 ≤ n && n ≤ 57) || (65 ≤ n && n ≤ 90) || (97 ≤ n && n ≤ 122)

def isDecimalDigit (c : Char) : Bool :=
  if c.toNat < 128 then 48 ≤ c.toNat && c.toNat ≤ 57 else inRanges digitRanges c.toNat

def isAlphanumeric (c : Char) : Bool :=
  if c.toNat < 128 then isAsciiAlphanumeric c
  else inRanges alphabeticRanges c.toNat || inRanges digitRanges c.toNat ||
    inRanges otherNumberRanges c.toNat

/-- A character of words: a letter, a decimal digit, or a mark or connector that joins them. -/
def isWordChar (c : Char) : Bool :=
  if c.toNat < 128 then isAsciiAlphanumeric c || c == '_'
  else inRanges alphabeticRanges c.toNat || inRanges digitRanges c.toNat ||
    inRanges wordJoinerRanges c.toNat

end Moderation.Text
