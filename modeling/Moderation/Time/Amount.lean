import Moderation.Text.Numeral
import Moderation.Time.Instant
/-!
Lengths of time as texts: the exact amount in the largest unit that it fills, and the coarse one in
days, hours and minutes.
-/
namespace Moderation.Time.Span
open Text

/-- A count of units with a fraction of `places` digits, without zeros at its end. -/
def fractional (places count rest : Nat) : String :=
  let fraction := ((padded places rest).reverse.dropWhile (· = '0')).reverse
  showNat count ++ (if fraction.isEmpty then "" else "." ++ String.ofList fraction)

/-- The amount of a length that is not negative, such as `1.5s`. -/
def amount (d : Span) : String :=
  let n := d.nanos.toNat
  if 1000000000 ≤ n then fractional 9 (n / 1000000000) (n % 1000000000) ++ "s"
  else if 1000000 ≤ n then fractional 6 (n / 1000000) (n % 1000000) ++ "ms"
  else if 1000 ≤ n then fractional 3 (n / 1000) (n % 1000) ++ "µs"
  else showNat n ++ "ns"

/-- The two largest units of a length, such as `6d 23h`. Parts count toward zero. -/
def coarse (d : Span) : String :=
  let seconds := d.seconds
  let days := seconds.tdiv 86400
  let hours := (seconds.tdiv 3600).tmod 24
  let minutes := (seconds.tdiv 60).tmod 60
  if days ≠ 0 then showInt days ++ "d " ++ showInt hours ++ "h"
  else if hours ≠ 0 then showInt hours ++ "h " ++ showInt minutes ++ "m"
  else showInt minutes ++ "m"

end Moderation.Time.Span
