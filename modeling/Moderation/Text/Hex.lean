import Moderation.Text.Numeral
/-!
Hexadecimal digits, and bytes written as pairs of them.
-/
namespace Moderation.Text.Hex

def digit? (c : Char) : Option Nat :=
  let n := c.toNat
  if 48 ≤ n ∧ n ≤ 57 then some (n - 48)
  else if 97 ≤ n ∧ n ≤ 102 then some (n - 87)
  else if 65 ≤ n ∧ n ≤ 70 then some (n - 55)
  else none

def digits (width n : Nat) : List Char :=
  (List.range width).map fun i => (n / Nat.pow 16 (width - 1 - i) % 16).digitChar

def natural? (s : List Char) : Option Nat :=
  (s.mapM digit?).map fun ds => ds.foldl (fun n d => 16 * n + d) 0

def ofBytes (bs : List UInt8) : String := String.ofList (bs.flatMap fun b => digits 2 b.toNat)

def toBytes? : List Char → Option (List UInt8)
  | [] => some []
  | [_] => none
  | a :: b :: s => do return (← natural? [a, b]).toUInt8 :: (← toBytes? s)

end Moderation.Text.Hex
