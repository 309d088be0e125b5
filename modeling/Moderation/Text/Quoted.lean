import Moderation.Text.Letter
import Moderation.Unicode.Category
import Moderation.Unicode.Property
/-!
Texts in double quotes for reports: what does not print, and what would attach itself to the
character before it, is written as an escape.
-/
namespace Moderation.Text
open Unicode

def unprintedCategories : List String := ["Cc", "Cf", "Cs", "Co", "Cn", "Zl", "Zp", "Zs"]

def isPrinted (c : Char) : Bool :=
  if c.toNat < 128 then 0x20 ≤ c.toNat && c.toNat < 127
  else !(categories.any fun (name, first, last) =>
    first ≤ c.toNat && c.toNat ≤ last && unprintedCategories.contains name)

def quotedChar (c : Char) : List Char :=
  if c = '"' ∨ c = '\\' then ['\\', c]
  else if c = '\t' then ['\\', 't']
  else if c = '\r' then ['\\', 'r']
  else if c = '\n' then ['\\', 'n']
  else if c.toNat = 0 then ['\\', '0']
  else if isPrinted c && !inRanges graphemeExtendRanges c.toNat then [c]
  else ['\\', 'u', '\x7b'] ++ Nat.toDigits 16 c.toNat ++ ['\x7d']

def quoted (s : String) : String := String.ofList ('"' :: s.toList.flatMap quotedChar ++ ['"'])

end Moderation.Text
