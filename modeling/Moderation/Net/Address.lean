import Moderation.Text.Hex
/-!
Internet addresses and their texts. An IPv6 address is written with its first longest run of two or
more zero groups left out, and with a dotted tail if it stands for an IPv4 address.
-/
namespace Moderation.Net
open Text

inductive IpAddress where
  | v4 (octets : List UInt8)
  | v6 (groups : List UInt16)
  deriving DecidableEq

namespace IpAddress

def octet? (s : List Char) : Option (UInt8 × List Char) :=
  let ds := s.takeWhile isDigit
  let n := accumulate 0 ds
  if ds.isEmpty || 3 < ds.length || 255 < n || (1 < ds.length && ds.head? == some '0') then none
  else some (n.toUInt8, s.drop ds.length)

def take? (c : Char) : List Char → Option (List Char)
  | d :: s => if d = c then some s else none
  | [] => none

def dotted? (s : List Char) : Option (List UInt8 × List Char) := do
  let (a, s) ← octet? s
  let (b, s) ← octet? (← take? '.' s)
  let (c, s) ← octet? (← take? '.' s)
  let (d, s) ← octet? (← take? '.' s)
  return ([a, b, c, d], s)

def group? (s : List Char) : Option (UInt16 × List Char) :=
  let ds := (s.takeWhile fun c => (Hex.digit? c).isSome).filterMap Hex.digit?
  if ds.isEmpty || 4 < ds.length then none
  else some ((ds.foldl (fun n d => 16 * n + d) 0).toUInt16, s.drop ds.length)

def pairUp : List UInt8 → List UInt16
  | a :: b :: rest => (256 * a.toUInt16 + b.toUInt16) :: pairUp rest
  | _ => []

/-- Reads up to `limit` groups with colons between them; the last two may be a dotted address, and
whether they were comes with the result. -/
def groups (limit : Nat) (first : Bool) (s : List Char) : List UInt16 × Bool × List Char :=
  match limit with
  | 0 => ([], false, s)
  | limit + 1 =>
    let start := if first then some s else take? ':' s
    match (if limit = 0 then none else start.bind dotted?) with
    | some (octets, rest) => (pairUp octets, true, rest)
    | none =>
      match start.bind group? with
      | none => ([], false, s)
      | some (g, rest) =>
        let (gs, dotted, rest) := groups limit false rest
        (g :: gs, dotted, rest)

/-- Reads eight groups, of which one run may be left out for `::`. -/
def coloned? (s : List Char) : Option (List UInt16 × List Char) := do
  let (head, dotted, s) := groups 8 true s
  if head.length = 8 then return (head, s)
  if dotted then none
  let s ← take? ':' (← take? ':' s)
  let (tail, _, s) := groups (7 - head.length) true s
  return (head ++ List.replicate (8 - head.length - tail.length) 0 ++ tail, s)

def ofText? (s : List Char) : Option IpAddress :=
  match dotted? s with
  | some (octets, []) => some (.v4 octets)
  | _ => match coloned? s with
    | some (gs, []) => some (.v6 gs)
    | _ => none

def isNumberBelow (bound : Nat) (s : List Char) : Bool :=
  match natural? s with
  | some n => n < bound
  | none => false

def isPort : List Char → Bool
  | ':' :: s => isNumberBelow (Nat.pow 2 16) s
  | _ => false

/-- Reads the address of a text that is an address with a port; an IPv6 address stands in brackets
and may have a zone. -/
def ofEndpoint? (s : List Char) : Option IpAddress :=
  match dotted? s with
  | some (octets, port) => if isPort port then some (.v4 octets) else none
  | none => match s with
    | '[' :: s => do
      let (gs, s) ← coloned? s
      let s := match s with
        | '%' :: zone =>
          let ds := zone.takeWhile isDigit
          if isNumberBelow (Nat.pow 2 32) ds then zone.drop ds.length else s
        | s => s
      match s with
      | ']' :: port => if isPort port then some (.v6 gs) else none
      | _ => none
    | _ => none

def ofField? (s : List Char) : Option IpAddress := ofEndpoint? s <|> ofText? s

def showOctets (octets : List UInt8) : String :=
  ".".intercalate (octets.map fun o => showNat o.toNat)

def showGroup (g : UInt16) : String := String.ofList (Nat.toDigits 16 g.toNat)

def showGroups (gs : List UInt16) : String := ":".intercalate (gs.map showGroup)

/-- Start and length of the first longest run of zero groups, from group `i` on. -/
def zeroRun (i : Nat) (best : Nat × Nat) (gs : List UInt16) : Nat × Nat :=
  match gs with
  | [] => best
  | g :: rest =>
    let len := ((g :: rest).takeWhile (· == 0)).length
    zeroRun (i + 1) (if best.2 < len then (i, len) else best) rest

def text : IpAddress → String
  | .v4 octets => showOctets octets
  | .v6 gs =>
    match gs with
    | [0, 0, 0, 0, 0, 0xFFFF, a, b] =>
      "::ffff:" ++ showOctets [(a >>> 8).toUInt8, a.toUInt8, (b >>> 8).toUInt8, b.toUInt8]
    | gs =>
      let (start, len) := zeroRun 0 (0, 0) gs
      if 1 < len then showGroups (gs.take start) ++ "::" ++ showGroups (gs.drop (start + len))
      else showGroups gs

end IpAddress
end Moderation.Net
