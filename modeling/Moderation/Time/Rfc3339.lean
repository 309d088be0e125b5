import Moderation.Text.Affix
import Moderation.Text.Blank
import Moderation.Text.Numeral
import Moderation.Time.Stamp
/-!
Time stamps as text, after RFC 3339. Writing uses the fewest of 0, 3, 6 and 9 places that are exact
and years beyond four digits with a sign. Reading is lenient: white space may stand around the
fields of date, time and offset, a year may have a sign and then any number of digits, and a field
may have fewer digits than usual.
-/
namespace Moderation.Time
open Text

/-- A year with at least four digits; outside 0 to 9999 with a sign. -/
def showYear (y : Int) : List Char :=
  if 0 ≤ y ∧ y ≤ 9999 then padded 4 y.toNat
  else (if y < 0 then '-' else '+') :: padded 4 y.natAbs

/-- A fraction of a second in the fewest of 0, 3, 6 and 9 places. -/
def showFraction (nanos : Nat) : List Char :=
  if nanos = 0 then []
  else if nanos % 1000000 = 0 then '.' :: padded 3 (nanos / 1000000)
  else if nanos % 1000 = 0 then '.' :: padded 6 (nanos / 1000)
  else '.' :: padded 9 nanos

def showDate (d : Date) : List Char :=
  showYear d.year ++ '-' :: padded 2 d.month ++ '-' :: padded 2 d.day

namespace Stamp

def local8601 (t : Stamp) : List Char :=
  let (d, h, m, s, n) := t.civil
  showDate d ++ 'T' :: padded 2 h ++ ':' :: padded 2 m ++ ':' :: padded 2 s ++ showFraction n

def text (t : Stamp) : String := String.ofList (t.local8601 ++ ['Z'])

def offsetText (t : Stamp) : String := String.ofList (t.local8601 ++ "+00:00".toList)

end Stamp

def Instant.toMinute (t : Instant) : String :=
  let (d, h, m, _, _) := (Stamp.ofInstant t).civil
  String.ofList (showDate d ++ ' ' :: padded 2 h ++ ':' :: padded 2 m)

def field? (width : Option Nat) (s : List Char) : Option (Nat × List Char) :=
  let ds := (match width with | some w => s.take w | none => s).takeWhile isDigit
  if ds.isEmpty then none else some (accumulate 0 ds, s.drop ds.length)

def smallField? (low high : Nat) (s : List Char) : Option (Nat × List Char) := do
  let (n, s) ← field? (some 2) (trimStart s)
  if low ≤ n ∧ n ≤ high then some (n, s) else none

/-- Reads a year: four digits at most, or a sign and any number of them. -/
def yearField? (s : List Char) : Option (Int × List Char) :=
  match trimStart s with
  | '-' :: s => (field? none s).map fun (n, s) => (-(n : Int), s)
  | '+' :: s => (field? none s).map fun (n, s) => ((n : Int), s)
  | s => (field? (some 4) s).map fun (n, s) => ((n : Int), s)

def mark? (c : Char) (s : List Char) : Option (List Char) :=
  match trimStart s with
  | d :: s => if d = c then some s else none
  | [] => none

/-- Reads a fraction, of which nine places count. -/
def fraction? (s : List Char) : Option (Nat × List Char) :=
  match s with
  | '.' :: s => do
    let ds := (s.take 9).takeWhile isDigit
    if ds.isEmpty then none
    else some (accumulate 0 ds * Nat.pow 10 (9 - ds.length), (s.drop ds.length).dropWhile isDigit)
  | s => some (0, s)

/-- Reads `Z`, `UTC` or hours and minutes with a sign, as seconds ahead of UTC. -/
def offset? (s : List Char) : Option (Int × List Char) := do
  let s := trimStart s
  if (s.take 3).map asciiLower = ['u', 't', 'c'] then return (0, s.drop 3)
  match s with
  | [] => none
  | c :: s =>
    if c = 'Z' ∨ c = 'z' then return (0, s)
    let sign : Int ← if c = '+' then some 1 else if c = '-' ∨ c = '−' then some (-1) else none
    match s with
    | a :: b :: s =>
      if !isDigit a || !isDigit b then none
      match s.dropWhile fun c => c = ':' || isBlank c with
      | x :: y :: rest =>
        if !isDigit x || !isDigit y || 5 < digitValue x then none
        let hours : Nat := accumulate 0 [a, b]
        let minutes : Nat := accumulate 0 [x, y]
        return (sign * (3600 * hours + 60 * minutes : Nat), rest)
      | _ => none
    | _ => none

def Stamp.ofText? (text : String) : Option Stamp := do
  let (year, s) ← yearField? text.toList
  let (month, s) ← smallField? 1 12 (← mark? '-' s)
  let (day, s) ← smallField? 1 31 (← mark? '-' s)
  let s ← match s with
    | c :: s => if c = 'T' ∨ c = 't' ∨ c = ' ' then some s else none
    | [] => none
  let (hour, s) ← smallField? 0 23 s
  let (minute, s) ← smallField? 0 59 (← mark? ':' s)
  let (second, s) ← smallField? 0 60 (← mark? ':' s)
  let (nanos, s) ← fraction? s
  let (offset, s) ← offset? s
  if !(trimStart s).isEmpty then none
  if offset ≤ -86400 ∨ 86400 ≤ offset then none
  (← Stamp.ofCivil? ⟨year, month, day⟩ hour minute second nanos).behind? offset

/-- Reads the time at the head of a log line: `MM/DD/YYYY - HH:MM:SS`, with all digits given. -/
def Stamp.ofHeader? (text : List Char) : Option Stamp := do
  let [m1, m2, '/', d1, d2, '/', y1, y2, y3, y4, ' ', '-', ' ', h1, h2, ':', n1, n2, ':', s1, s2] :=
    text | none
  let month ← natural? [m1, m2]
  let day ← natural? [d1, d2]
  let year ← natural? [y1, y2, y3, y4]
  let hour ← natural? [h1, h2]
  let minute ← natural? [n1, n2]
  let second ← natural? [s1, s2]
  Stamp.ofCivil? ⟨year, month, day⟩ hour minute second 0

end Moderation.Time
