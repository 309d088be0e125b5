import Moderation.Text.Affix
import Moderation.Text.Numeral
/-!
Double-precision numbers by their bits: the value nearest to a ratio, with ties to the even
neighbour, and the reading of decimal texts, correctly rounded.
-/
namespace Moderation.Number

structure Double where
  bits : UInt64
  deriving DecidableEq

namespace Double

def signed (negative : Bool) (rest : Nat) : Double :=
  ⟨(if negative then Nat.pow 2 63 + rest else rest).toUInt64⟩

def infinity (negative : Bool) : Double := signed negative (2047 * Nat.pow 2 52)

def nan : Double := signed false (2047 * Nat.pow 2 52 + Nat.pow 2 51)

def isNegative (x : Double) : Bool := Nat.pow 2 63 ≤ x.bits.toNat

def exponent (x : Double) : Nat := x.bits.toNat / Nat.pow 2 52 % 2048

def fraction (x : Double) : Nat := x.bits.toNat % Nat.pow 2 52

def isNaN (x : Double) : Bool := x.exponent == 2047 && x.fraction != 0

def isFinite (x : Double) : Bool := x.exponent != 2047

/-- The magnitude of a finite number as `m * 2 ^ (e - 1074)`. -/
def magnitude (x : Double) : Nat × Nat :=
  if x.exponent = 0 then (x.fraction, 0) else (x.fraction + Nat.pow 2 52, x.exponent - 1)

/-- A quotient rounded to the nearest integer, ties to the even one. -/
def roundQuotient (num den : Nat) : Nat :=
  let q := num / den
  let r := num % den
  if 2 * r > den ∨ (2 * r = den ∧ q % 2 = 1) then q + 1 else q

/-- The bits of `m * 2 ^ (e - 1074)`, where `m` has fifty-three bits unless `e` is zero. -/
def assemble (m e : Nat) : Nat :=
  let (m, e) := if m = Nat.pow 2 53 then (Nat.pow 2 52, e + 1) else (m, e)
  if m < Nat.pow 2 52 then m
  else if 2046 ≤ e then 2047 * Nat.pow 2 52
  else (e + 1) * Nat.pow 2 52 + (m - Nat.pow 2 52)

def ofRatio (negative : Bool) (num den : Nat) : Double :=
  if num = 0 then signed negative 0 else
    -- the quotient lies between 2 ^ (s - 1) and 2 ^ (s + 1)
    let s : Int := (num.log2 : Int) - (den.log2 : Int)
    let below : Bool :=
      if 0 ≤ s then num < den * Nat.pow 2 s.toNat else num * Nat.pow 2 (-s).toNat < den
    let top : Int := if below then s - 1 else s
    let e : Nat := (top + 1022).toNat
    let shift : Int := (e : Int) - 1074
    let m :=
      if 0 ≤ shift then roundQuotient num (den * Nat.pow 2 shift.toNat)
      else roundQuotient (num * Nat.pow 2 (-shift).toNat) den
    signed negative (assemble m e)

/-- The double nearest to `n * 10 ^ e`. A value beyond the reach of the type in either direction is
settled by its number of digits, so that no power grows without bound. -/
def ofDecimal (negative : Bool) (n : Nat) (e : Int) : Double :=
  if n = 0 then signed negative 0 else
    let size : Int := (Text.digits n).length
    if 310 < size + e then infinity negative
    else if size + e < -325 then signed negative 0
    else if 0 ≤ e then ofRatio negative (n * Nat.pow 10 e.toNat) 1
    else ofRatio negative n (Nat.pow 10 (-e).toNat)

def spanDigits (s : List Char) : List Char × List Char :=
  (s.takeWhile Text.isDigit, s.dropWhile Text.isDigit)

def exponent? : List Char → Option Int
  | [] => some 0
  | c :: s => if c = 'e' ∨ c = 'E' then Text.integer? s else none

def decimal? (negative : Bool) (s : List Char) : Option Double :=
  let (whole, rest) := spanDigits s
  let (places, rest) := match rest with
    | '.' :: rest => spanDigits rest
    | rest => ([], rest)
  if whole.isEmpty && places.isEmpty then none
  else (exponent? rest).map fun e =>
    ofDecimal negative (Text.accumulate 0 (whole ++ places)) (e - places.length)

/-- Reads a decimal text, `inf`, `infinity` or `nan` in any case, each with an optional sign. -/
def ofText? (s : List Char) : Option Double :=
  let (negative, body) := match s with
    | '-' :: s => (true, s)
    | '+' :: s => (false, s)
    | s => (false, s)
  match decimal? negative body with
  | some x => some x
  | none =>
    let word := String.ofList (body.map Text.asciiLower)
    if word = "inf" ∨ word = "infinity" then some (infinity negative)
    else if word = "nan" then some nan
    else none

def mul (x y : Double) : Double :=
  let (m, e) := x.magnitude
  let (n, f) := y.magnitude
  ofRatio (x.isNegative != y.isNegative) (m * n * Nat.pow 2 (e + f)) (Nat.pow 2 2148)

/-- The quotient of finite numbers, rounded; the divisor is not zero. -/
def div (x y : Double) : Double :=
  let (m, e) := x.magnitude
  let (n, f) := y.magnitude
  ofRatio (x.isNegative != y.isNegative) (m * Nat.pow 2 e) (n * Nat.pow 2 f)

def ofInt (n : Int) : Double := ofRatio (n < 0) n.natAbs 1

/-- A finite number with two decimal places; a tie goes to the even last digit. -/
def twoPlaces (x : Double) : List Char :=
  let (m, e) := x.magnitude
  let cents := roundQuotient (m * Nat.pow 2 e * 100) (Nat.pow 2 1074)
  (if x.isNegative then ['-'] else []) ++
    Text.digits (cents / 100) ++ '.' :: Text.padded 2 (cents % 100)

end Double
end Moderation.Number
