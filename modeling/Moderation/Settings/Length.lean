import Moderation.Number.Range
import Moderation.Text.Affix
import Moderation.Text.Blank
import Moderation.Text.Numeral
import Moderation.Time.Instant
/-!
Lengths of time in settings: a whole number and a unit, such as `30m`. The length of a ban may also
be permanent, which is what every length beyond five years means.
-/
namespace Moderation.Settings
open Number Text Time

/-- What a count of a unit is multiplied by to have seconds, one factor after the other: a month has
30 days and a year 365. -/
def unitFactors? : Char → Option (List Int)
  | 's' => some []
  | 'm' => some [60]
  | 'h' => some [3600]
  | 'd' => some [86400]
  | 'w' => some [604800]
  | 'M' => some [30, 86400]
  | 'y' => some [365, 86400]
  | _ => none

def splitLast? (s : List Char) : Option (List Char × Char) :=
  match s.reverse with
  | [] => none
  | c :: s => some (s.reverse, c)

/-- Reads a length that is not negative. It is given up as soon as a number leaves 64 bits, or at the
end if it is beyond the longest length. -/
def length? (s : List Char) : Option Span := do
  let (number, unit) ← splitLast? (trim s)
  let n ← int64.check? (← integer? number)
  if n < 0 then none
  else
    let seconds ← (← unitFactors? unit).foldlM int64.mul? n
    Span.ofSeconds? seconds

inductive BanLength where
  | permanent
  | until (length : Span)
  deriving DecidableEq

def BanLength.span? : BanLength → Option Span
  | permanent => none
  | .until d => some d

def maxBan : Span := .ofDays 1825

def banLength? (s : List Char) : Option BanLength :=
  let t := trim s
  if t = ['0'] ∨ t.map asciiLower = "permanent".toList then some .permanent
  else (length? t).map fun d =>
    if d = .zero ∨ maxBan < d then .permanent else .until d

end Moderation.Settings
