import Moderation.Event.Basic
/-!
Tallies: the six totals of a team or a player. A total that would leave 64 bits is an overflow.
-/
namespace Moderation.Match
open Number

inductive Stat where
  | kills
  | deaths
  | damage
  | healing
  | charges
  | drops
  deriving DecidableEq

structure Tally where
  kills : Int
  deaths : Int
  damage : Int
  healing : Int
  charges : Int
  drops : Int
  deriving DecidableEq

namespace Tally

def zero : Tally := ⟨0, 0, 0, 0, 0, 0⟩

def get (t : Tally) : Stat → Int
  | .kills => t.kills
  | .deaths => t.deaths
  | .damage => t.damage
  | .healing => t.healing
  | .charges => t.charges
  | .drops => t.drops

def set (t : Tally) (n : Int) : Stat → Tally
  | .kills => { t with kills := n }
  | .deaths => { t with deaths := n }
  | .damage => { t with damage := n }
  | .healing => { t with healing := n }
  | .charges => { t with charges := n }
  | .drops => { t with drops := n }

def add (t : Tally) (s : Stat) (n : Int) : Except Overflow Tally := do
  return t.set (← int64.add (t.get s) n) s

theorem get_set (t : Tally) (n : Int) (s r : Stat) :
    (t.set n s).get r = if r = s then n else t.get r := by
  cases s <;> cases r <;> rfl

end Tally

/-- The tally of a player, under the name and team they had last. -/
structure Line where
  name : String
  team : Team
  tally : Tally
  deriving DecidableEq

end Moderation.Match
