/-!
Integer types as ranges: what they hold, and sums and products that fail where they are outside.
-/
namespace Moderation.Number

structure Range where
  low : Int
  high : Int
  deriving DecidableEq

def Range.signed (bits : Nat) : Range := ⟨-(Nat.pow 2 (bits - 1)), Nat.pow 2 (bits - 1) - 1⟩

def Range.unsigned (bits : Nat) : Range := ⟨0, Nat.pow 2 bits - 1⟩

def Range.Holds (r : Range) (n : Int) : Prop := r.low ≤ n ∧ n ≤ r.high

instance (r : Range) (n : Int) : Decidable (r.Holds n) :=
  inferInstanceAs (Decidable (_ ∧ _))

def Range.check? (r : Range) (n : Int) : Option Int := if r.Holds n then some n else none

abbrev int64 : Range := .signed 64

abbrev int32 : Range := .signed 32

abbrev word64 : Range := .unsigned 64

/-- The one way in which arithmetic fails: a sum outside its type. Products are given up instead. -/
inductive Overflow where
  | sum
  deriving DecidableEq

def Overflow.message : Overflow → String
  | .sum => "attempt to add with overflow"

def Range.add (r : Range) (a b : Int) : Except Overflow Int :=
  if r.Holds (a + b) then .ok (a + b) else .error .sum

def Range.mul? (r : Range) (a b : Int) : Option Int := r.check? (a * b)

/-- The parts of a computation that succeeds. -/
theorem bind_eq_ok {ε α β : Type} {x : Except ε α} {f : α → Except ε β} {b : β}
    (h : (x >>= f) = .ok b) : ∃ a, x = .ok a ∧ f a = .ok b := by
  cases x with
  | error c => cases h
  | ok a => exact ⟨a, rfl, h⟩

def total (ns : List Nat) : Nat := ns.foldr (· + ·) 0

@[simp] theorem total_nil : total [] = 0 := rfl

@[simp] theorem total_cons (n : Nat) (ns : List Nat) : total (n :: ns) = n + total ns := rfl

theorem total_append (ms ns : List Nat) : total (ms ++ ns) = total ms + total ns := by
  induction ms with
  | nil => simp
  | cons m ms ih => simp [ih, Nat.add_assoc]

end Moderation.Number
