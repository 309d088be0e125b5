import Moderation.Time.Instant
/-!
Time stamps: the times of events. A stamp is a second with a fraction, which is a whole second more
in a leap second; that one is later than second 59 and earlier than the next minute.
-/
namespace Moderation.Time

/-- A second since 1970-01-01T00:00:00Z and nanoseconds in it, below two seconds. -/
structure Stamp where
  second : Int
  nanos : Nat
  deriving DecidableEq

namespace Stamp

instance : LT Stamp := ⟨fun a b => a.second < b.second ∨ (a.second = b.second ∧ a.nanos < b.nanos)⟩
instance : LE Stamp := ⟨fun a b => a.second < b.second ∨ (a.second = b.second ∧ a.nanos ≤ b.nanos)⟩
instance (a b : Stamp) : Decidable (a < b) := inferInstanceAs (Decidable (_ ∨ _))
instance (a b : Stamp) : Decidable (a ≤ b) := inferInstanceAs (Decidable (_ ∨ _))

theorem le_refl (a : Stamp) : a ≤ a := Or.inr ⟨rfl, Nat.le_refl _⟩

theorem le_trans {a b c : Stamp} (h : a ≤ b) (k : b ≤ c) : a ≤ c := by
  have hab : a.second < b.second ∨ (a.second = b.second ∧ a.nanos ≤ b.nanos) := h
  have hbc : b.second < c.second ∨ (b.second = c.second ∧ b.nanos ≤ c.nanos) := k
  have hac : a.second < c.second ∨ (a.second = c.second ∧ a.nanos ≤ c.nanos) := by omega
  exact hac

theorem le_of_not_lt {a b : Stamp} (h : ¬ a < b) : b ≤ a := by
  have hab : ¬ (a.second < b.second ∨ (a.second = b.second ∧ a.nanos < b.nanos)) := h
  have hba : b.second < a.second ∨ (b.second = a.second ∧ b.nanos ≤ a.nanos) := by omega
  exact hba

theorem le_of_lt {a b : Stamp} (h : a < b) : a ≤ b := by
  have hab : a.second < b.second ∨ (a.second = b.second ∧ a.nanos < b.nanos) := h
  have hle : a.second < b.second ∨ (a.second = b.second ∧ a.nanos ≤ b.nanos) := by omega
  exact hle

def ofInstant (t : Instant) : Stamp := ⟨t.nanos / 1000000000, (t.nanos % 1000000000).toNat⟩

def max (a b : Stamp) : Stamp := if a < b then b else a

instance : Max Stamp := ⟨Stamp.max⟩

theorem le_max_left (a b : Stamp) : a ≤ a.max b := by
  unfold max
  split
  · exact le_of_lt ‹_›
  · exact le_refl a

theorem le_max_right (a b : Stamp) : b ≤ a.max b := by
  unfold max
  split
  · exact le_refl b
  · exact le_of_not_lt ‹_›

/-- The stamp of a date and a time of day. Second 60 is the leap second after second 59. -/
def ofCivil? (d : Date) (hour minute second nanos : Nat) : Option Stamp :=
  if d.Valid ∧ hour < 24 ∧ minute < 60 ∧ second ≤ 60 ∧ nanos < 1000000000 then
    let start : Int := d.toDays * 86400 + (3600 * hour + 60 * minute : Nat)
    if second = 60 then some ⟨start + 59, 1000000000 + nanos⟩
    else some ⟨start + second, nanos⟩
  else none

def civil (t : Stamp) : Date × Nat × Nat × Nat × Nat :=
  let time := (t.second % 86400).toNat
  let (extra, nanos) := if t.nanos < 1000000000 then (0, t.nanos) else (1, t.nanos - 1000000000)
  (Date.ofDays (t.second / 86400), time / 3600, time / 60 % 60, time % 60 + extra, nanos)

def InRange (t : Stamp) : Prop :=
  Instant.first.nanos / 1000000000 ≤ t.second ∧ t.second ≤ Instant.last.nanos / 1000000000

instance (t : Stamp) : Decidable t.InRange := inferInstanceAs (Decidable (_ ∧ _))

/-- The stamp that reads the same on a clock `offset` seconds ahead. -/
def behind? (t : Stamp) (offset : Int) : Option Stamp :=
  let s : Stamp := ⟨t.second - offset, t.nanos⟩
  if s.InRange then some s else none

end Stamp
end Moderation.Time
