import Moderation.Json.Basic
import Moderation.Text.Hex
/-!
The parts of a JSON text below the level of arrays and objects: white space, words, strings and
numbers. Each reader takes the text from its first character on and returns what it leaves.
-/
namespace Moderation.Json
open Number Text

structure Malformed where
  deriving DecidableEq

abbrev Read := Except Malformed

def isSpace (c : Char) : Bool := c = ' ' || c = '\n' || c = '\t' || c = '\r'

def skipSpace (s : List Char) : List Char := s.dropWhile isSpace

def word (w : List Char) (s : List Char) : Read (List Char) :=
  match dropPrefix? w s with
  | some rest => .ok rest
  | none => .error ⟨⟩

def unit (s : List Char) : Read (Nat × List Char) :=
  match s with
  | a :: b :: c :: d :: rest =>
    match Hex.digit? a, Hex.digit? b, Hex.digit? c, Hex.digit? d with
    | some a, some b, some c, some d => .ok (4096 * a + 256 * b + 16 * c + d, rest)
    | _, _, _, _ => .error ⟨⟩
  | _ => .error ⟨⟩

/-- Reads the digits after `\u`; a code point above 0xFFFF takes two escapes, and half of such a
pair alone is malformed. -/
def codePoint (s : List Char) : Read (Char × List Char) := do
  let (n, rest) ← unit s
  if 0xDC00 ≤ n ∧ n ≤ 0xDFFF then .error ⟨⟩
  else if 0xD800 ≤ n ∧ n ≤ 0xDBFF then
    let rest ← word ['\\', 'u'] rest
    let (m, rest) ← unit rest
    if 0xDC00 ≤ m ∧ m ≤ 0xDFFF then
      .ok (Char.ofNat (0x10000 + (n - 0xD800) * 0x400 + (m - 0xDC00)), rest)
    else .error ⟨⟩
  else .ok (Char.ofNat n, rest)

def plainEscape? : Char → Option Char
  | '"' => some '"'
  | '\\' => some '\\'
  | '/' => some '/'
  | 'b' => some '\x08'
  | 'f' => some '\x0c'
  | 'n' => some '\n'
  | 'r' => some '\r'
  | 't' => some '\t'
  | _ => none

/-- Reads the characters of a string up to its closing quote; `done` holds those read so far, the
last one first. -/
def stringBody : Nat → List Char → List Char → Read (String × List Char)
  | 0, _, _ => .error ⟨⟩
  | _ + 1, _, [] => .error ⟨⟩
  | _ + 1, done, '"' :: s => .ok (String.ofList done.reverse, s)
  | _ + 1, _, ['\\'] => .error ⟨⟩
  | fuel + 1, done, '\\' :: c :: s =>
    if c = 'u' then do
      let (d, rest) ← codePoint s
      stringBody fuel (d :: done) rest
    else match plainEscape? c with
      | some d => stringBody fuel (d :: done) s
      | none => .error ⟨⟩
  | fuel + 1, done, c :: s =>
    if c.toNat < 0x20 then .error ⟨⟩ else stringBody fuel (c :: done) s

def readString (s : List Char) : Read (String × List Char) := stringBody (s.length + 1) [] s

/-- Passes over a string after its opening quote; escapes of half a pair are not looked into. -/
def skipString : Nat → List Char → Read (List Char)
  | 0, _ => .error ⟨⟩
  | _ + 1, [] => .error ⟨⟩
  | _ + 1, '"' :: s => .ok s
  | _ + 1, ['\\'] => .error ⟨⟩
  | fuel + 1, '\\' :: c :: s =>
    if c = 'u' then do
      let (_, rest) ← unit s
      skipString fuel rest
    else if (plainEscape? c).isSome then skipString fuel s
    else .error ⟨⟩
  | fuel + 1, c :: s => if c.toNat < 0x20 then .error ⟨⟩ else skipString fuel s

/-- Scales a double by a power of ten, rounding once for each factor; powers up to `10 ^ 308` are
one factor. Nothing is returned for a result beyond the largest double. -/
def scale? (x : Double) (e : Int) : Option Double :=
  let ten (k : Nat) : Double := .ofRatio false (Nat.pow 10 k) 1
  if e < -308 then
    -- two divisions reach below the smallest double
    let y := x.div (ten 308)
    let rest := (-e).toNat - 308
    if rest ≤ 308 then some (y.div (ten rest)) else some (.signed x.isNegative 0)
  else if e < 0 then some (x.div (ten (-e).toNat))
  else if 308 < e then if x.magnitude.1 = 0 then some x else none
  else
    let y := x.mul (ten e.toNat)
    if y.isFinite then some y else none

/-- A number that is no integer: its leading digits as far as they fit 64 bits, rounded, times a
power of ten. -/
def scaled (negative : Bool) (n : Nat) (e : Int) (rest : List Char) : Read (Json × List Char) :=
  match scale? (Double.ofRatio false n 1) e with
  | some x => .ok (.real (if negative then .signed true x.bits.toNat else x), rest)
  | none => .error ⟨⟩

/-- Takes digits while the number stays below `2 ^ 64`; the count of digits taken comes with it. -/
def leadingDigits (n count : Nat) : List Char → Nat × Nat × List Char
  | [] => (n, count, [])
  | c :: s =>
    if isDigit c ∧ 10 * n + digitValue c < Nat.pow 2 64 then
      leadingDigits (10 * n + digitValue c) (count + 1) s
    else (n, count, c :: s)

def exponentPart (negative : Bool) (n : Nat) (e : Int) (s : List Char) : Read (Json × List Char) :=
  match s with
  | c :: s =>
    if c = 'e' ∨ c = 'E' then
      let (down, s) := match s with
        | '+' :: s => (false, s)
        | '-' :: s => (true, s)
        | s => (false, s)
      let (ds, rest) := Double.spanDigits s
      if ds.isEmpty then .error ⟨⟩
      else
        let x := accumulate 0 ds
        if Nat.pow 2 31 ≤ x then
          if n ≠ 0 ∧ !down then .error ⟨⟩ else .ok (.real (.signed negative 0), rest)
        else scaled negative n (if down then e - x else e + x) rest
    else scaled negative n e (c :: s)
  | [] => scaled negative n e []

/-- Reads the places after a point, of which there is at least one. Places that no longer fit the
leading digits are passed over. -/
def placesPart (negative : Bool) (n : Nat) (e : Int) (s : List Char) : Read (Json × List Char) :=
  let (n, count, rest) := leadingDigits n 0 s
  let beyond := rest.dropWhile isDigit
  if count = 0 ∧ beyond.length = rest.length then .error ⟨⟩
  else exponentPart negative n (e - count) beyond

/-- Reads a number after its sign. An integer that does not fit, and `-0`, is a double. -/
def readNumber (negative : Bool) (s : List Char) : Read (Json × List Char) :=
  match s with
  | [] => .error ⟨⟩
  | c :: s' =>
    if !isDigit c then .error ⟨⟩
    else
      let (n, _, rest) :=
        if c = '0' then (0, 1, s') else leadingDigits 0 0 s
      let (more, after) := Double.spanDigits rest
      if c = '0' ∧ !more.isEmpty then .error ⟨⟩
      else match after with
        | '.' :: places => placesPart negative n more.length places
        | 'e' :: _ => exponentPart negative n more.length after
        | 'E' :: _ => exponentPart negative n more.length after
        | _ =>
          if !more.isEmpty then scaled negative n more.length after
          else if negative then
            if n = 0 ∨ Nat.pow 2 63 < n then scaled true n 0 after
            else .ok (.integer (-(n : Int)), after)
          else .ok (.integer n, after)

end Moderation.Json
