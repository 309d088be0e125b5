import Moderation.Time.Calendar
/-!
Points on the clock and lengths of time, in nanoseconds, and the one-minute buckets of the clock.
-/
namespace Moderation.Time

structure Span where
  nanos : Int
  deriving DecidableEq

namespace Span

instance : LE Span := ⟨fun a b => a.nanos ≤ b.nanos⟩
instance : LT Span := ⟨fun a b => a.nanos < b.nanos⟩
instance (a b : Span) : Decidable (a ≤ b) := inferInstanceAs (Decidable (a.nanos ≤ b.nanos))
instance (a b : Span) : Decidable (a < b) := inferInstanceAs (Decidable (a.nanos < b.nanos))

theorem not_lt {a b : Span} : ¬ a < b ↔ b ≤ a := Int.not_lt

def ofMillis (n : Int) : Span := ⟨n * 1000000⟩

def ofSeconds (n : Int) : Span := ⟨n * 1000000000⟩

def ofDays (n : Int) : Span := ofSeconds (86400 * n)

def zero : Span := ⟨0⟩

def millis (d : Span) : Int := d.nanos.tdiv 1000000

def seconds (d : Span) : Int := d.nanos.tdiv 1000000000

/-- The longest length in whole seconds: milliseconds are counted in 64 bits. -/
def maxSeconds : Int := (Nat.pow 2 63 - 1) / 1000

/-- So many seconds, unless they are beyond the longest length of either sign. -/
def ofSeconds? (n : Int) : Option Span :=
  if -maxSeconds ≤ n ∧ n ≤ maxSeconds then some (ofSeconds n) else none

end Span

/-- A reading of the clock: nanoseconds since 1970-01-01T00:00:00Z. -/
structure Instant where
  nanos : Int
  deriving DecidableEq

namespace Instant

instance : LE Instant := ⟨fun a b => a.nanos ≤ b.nanos⟩
instance : LT Instant := ⟨fun a b => a.nanos < b.nanos⟩
instance (a b : Instant) : Decidable (a ≤ b) := inferInstanceAs (Decidable (a.nanos ≤ b.nanos))
instance (a b : Instant) : Decidable (a < b) := inferInstanceAs (Decidable (a.nanos < b.nanos))

def ofMillis (n : Int) : Instant := ⟨n * 1000000⟩

def since (later earlier : Instant) : Span := ⟨later.nanos - earlier.nanos⟩

def last : Instant :=
  ⟨((Date.toDays ⟨lastYear, 12, 31⟩ + 1) * 86400) * 1000000000 - 1⟩

def first : Instant := ⟨Date.toDays ⟨firstYear, 1, 1⟩ * 86400 * 1000000000⟩

def add? (t : Instant) (d : Span) : Option Instant :=
  let n := t.nanos + d.nanos
  if first.nanos ≤ n ∧ n ≤ last.nanos then some ⟨n⟩ else none

def Near (t : Instant) : Prop := -Nat.pow 2 63 ≤ t.nanos ∧ t.nanos < Nat.pow 2 63

instance (t : Instant) : Decidable t.Near := inferInstanceAs (Decidable (_ ∧ _))

/-- The start of the minute of a reading; a reading too far away to be counted in 64 bits is a
bucket of its own. -/
def minute (t : Instant) : Instant :=
  if t.Near then ⟨t.nanos / 60000000000 * 60000000000⟩ else t

end Instant
end Moderation.Time
