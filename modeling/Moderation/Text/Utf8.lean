/-!
UTF-8: the bytes of a text, and the text of bytes, in which each longest run of bytes that starts a
character without completing it, or else a single byte, is replaced by U+FFFD.
-/
namespace Moderation.Text.Utf8

def encodeChar (c : Char) : List UInt8 :=
  let n := c.toNat
  if n < 0x80 then [n.toUInt8]
  else if n < 0x800 then [(0xC0 + n / 64).toUInt8, (0x80 + n % 64).toUInt8]
  else if n < 0x10000 then
    [(0xE0 + n / 4096).toUInt8, (0x80 + n / 64 % 64).toUInt8, (0x80 + n % 64).toUInt8]
  else
    [(0xF0 + n / 262144).toUInt8, (0x80 + n / 4096 % 64).toUInt8, (0x80 + n / 64 % 64).toUInt8,
      (0x80 + n % 64).toUInt8]

def encode (s : List Char) : List UInt8 := s.flatMap encodeChar

def isTail (b : UInt8) : Bool := 0x80 ≤ b && b ≤ 0xBF

/-- The bytes that may follow the first byte of a character of three or four bytes. -/
def isSecond (first b : UInt8) : Bool :=
  if first = 0xE0 then 0xA0 ≤ b && b ≤ 0xBF
  else if first = 0xED then 0x80 ≤ b && b ≤ 0x9F
  else if first = 0xF0 then 0x90 ≤ b && b ≤ 0xBF
  else if first = 0xF4 then 0x80 ≤ b && b ≤ 0x8F
  else isTail b

def codePoint (lead : Nat) (tails : List UInt8) : Char :=
  Char.ofNat (tails.foldl (fun n b => 64 * n + b.toNat % 64) lead)

def replacement : Char := '\uFFFD'

/-- The first character of a text that starts with byte `a`, and how many of the bytes after `a`
belong to it. -/
def first (a : UInt8) (s : List UInt8) : Char × Nat :=
  if a < 0x80 then (Char.ofNat a.toNat, 0)
  else if 0xC2 ≤ a && a ≤ 0xDF then
    match s with
    | b :: _ => if isTail b then (codePoint (a.toNat % 32) [b], 1) else (replacement, 0)
    | [] => (replacement, 0)
  else if 0xE0 ≤ a && a ≤ 0xEF then
    match s with
    | b :: s =>
      if isSecond a b then
        match s with
        | c :: _ => if isTail c then (codePoint (a.toNat % 16) [b, c], 2) else (replacement, 1)
        | [] => (replacement, 1)
      else (replacement, 0)
    | [] => (replacement, 0)
  else if 0xF0 ≤ a && a ≤ 0xF4 then
    match s with
    | b :: s =>
      if isSecond a b then
        match s with
        | c :: s =>
          if isTail c then
            match s with
            | d :: _ =>
              if isTail d then (codePoint (a.toNat % 8) [b, c, d], 3) else (replacement, 2)
            | [] => (replacement, 2)
          else (replacement, 1)
        | [] => (replacement, 1)
      else (replacement, 0)
    | [] => (replacement, 0)
  else (replacement, 0)

def decode : List UInt8 → List Char
  | [] => []
  | a :: s => (first a s).1 :: decode (s.drop (first a s).2)
termination_by s => s.length
decreasing_by simp only [List.length_drop, List.length_cons]; omega

def size (s : List Char) : Nat := (encode s).length

end Moderation.Text.Utf8
