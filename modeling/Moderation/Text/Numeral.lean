/-!
Whole numbers in decimal notation. Reading takes ASCII digits only, with any number of leading
zeros; writing gives the shortest form, and reading it gives the number back.
-/
namespace Moderation.Text

def isDigit (c : Char) : Bool := 48 ≤ c.toNat && c.toNat ≤ 57

def digitValue (c : Char) : Nat := c.toNat - 48

/-- The number that a row of digits adds to what stands before it. -/
def accumulate (n : Nat) (s : List Char) : Nat :=
  s.foldl (fun n c => 10 * n + digitValue c) n

def natural? (s : List Char) : Option Nat :=
  if s ≠ [] ∧ s.all isDigit then some (accumulate 0 s) else none

def integer? : List Char → Option Int
  | '-' :: s => (natural? s).map fun n : Nat => -(n : Int)
  | '+' :: s => (natural? s).map fun n : Nat => (n : Int)
  | s => (natural? s).map fun n : Nat => (n : Int)

def unsigned? : List Char → Option Nat
  | '+' :: s => natural? s
  | s => natural? s

def digit (n : Nat) : Char := Char.ofNat (48 + n)

/-- The decimal digits of a number, without leading zeros. -/
def digits (n : Nat) : List Char :=
  if n < 10 then [digit n] else digits (n / 10) ++ [digit (n % 10)]

def decimal (n : Int) : List Char :=
  if n < 0 then '-' :: digits n.natAbs else digits n.natAbs

def padded (width n : Nat) : List Char :=
  List.replicate (width - (digits n).length) '0' ++ digits n

def showNat (n : Nat) : String := String.ofList (digits n)

def showInt (n : Int) : String := String.ofList (decimal n)

theorem accumulate_append (n : Nat) (s t : List Char) :
    accumulate n (s ++ t) = accumulate (accumulate n s) t := List.foldl_append

theorem toNat_digit {n : Nat} (h : n < 10) : (digit n).toNat = 48 + n := by
  have cases : n = 0 ∨ n = 1 ∨ n = 2 ∨ n = 3 ∨ n = 4 ∨ n = 5 ∨ n = 6 ∨ n = 7 ∨ n = 8 ∨ n = 9 := by
    omega
  rcases cases with rfl | rfl | rfl | rfl | rfl | rfl | rfl | rfl | rfl | rfl <;> rfl

theorem isDigit_digit {n : Nat} (h : n < 10) : isDigit (digit n) = true := by
  simp [isDigit, toNat_digit h]
  omega

theorem digits_ne_nil (n : Nat) : digits n ≠ [] := by
  rw [digits]
  split <;> simp

theorem all_isDigit_digits (n : Nat) : (digits n).all isDigit = true := by
  fun_induction digits n with
  | case1 n h => simp [isDigit_digit h]
  | case2 n h ih => simp [ih, isDigit_digit (Nat.mod_lt n (by omega : 0 < 10))]

theorem accumulate_digits (n : Nat) : accumulate 0 (digits n) = n := by
  fun_induction digits n with
  | case1 n h => simp [accumulate, digitValue, toNat_digit h]
  | case2 n h ih =>
    rw [accumulate_append, ih]
    simp [accumulate, digitValue, toNat_digit (Nat.mod_lt n (by omega : 0 < 10))]
    omega

/-- A number is read back from its digits. -/
theorem natural?_digits (n : Nat) : natural? (digits n) = some n := by
  simp [natural?, digits_ne_nil, all_isDigit_digits, accumulate_digits]

end Moderation.Text
