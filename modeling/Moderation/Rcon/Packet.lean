import Moderation.Rcon.Command
import Moderation.Text.Utf8
/-!
Packets of the remote console protocol: the size of what follows, an id and a kind, each a 32-bit
integer with its low byte first, and a text followed by two zero bytes.
-/
namespace Moderation.Rcon
open Text

structure Packet where
  id : Int
  kind : Int
  body : String
  deriving DecidableEq

def int32Bytes (n : Int) : List UInt8 :=
  let w := (n % Nat.pow 2 32).toNat
  [w.toUInt8, (w / Nat.pow 2 8).toUInt8, (w / Nat.pow 2 16).toUInt8, (w / Nat.pow 2 24).toUInt8]

def int32OfBytes (a b c d : UInt8) : Int :=
  let w : Nat := a.toNat + Nat.pow 2 8 * b.toNat + Nat.pow 2 16 * c.toNat + Nat.pow 2 24 * d.toNat
  if w < Nat.pow 2 31 then (w : Int) else (w : Int) - Nat.pow 2 32

/-- Sizes of packets that are read: at least the two integers and two zero bytes. -/
def minSize : Int := 10

def maxSize : Int := 4106

def Packet.encode (p : Packet) : List UInt8 :=
  let body := Utf8.encode p.body.toList
  int32Bytes (10 + body.length) ++ int32Bytes p.id ++ int32Bytes p.kind ++ body ++ [0, 0]

def readInt32 : List UInt8 → Except ControlError (Int × List UInt8)
  | a :: b :: c :: d :: rest => .ok (int32OfBytes a b c d, rest)
  | _ => .error (.io .unexpectedEof)

def readBytes (n : Nat) (s : List UInt8) : Except ControlError (List UInt8 × List UInt8) :=
  if s.length < n then .error (.io .unexpectedEof) else .ok (s.take n, s.drop n)

/-- Reads a packet from a stream that ends after the given bytes. The last two bytes of the body do
not belong to its text, whatever they are. -/
def Packet.read (s : List UInt8) : Except ControlError (Packet × List UInt8) := do
  let (size, s) ← readInt32 s
  if size < minSize ∨ maxSize < size then .error (.protocol ("packet size " ++ showInt size))
  else
    let (id, s) ← readInt32 s
    let (kind, s) ← readInt32 s
    let n := (size - 8).toNat
    let (body, s) ← readBytes n s
    return (⟨id, kind, String.ofList (Utf8.decode (body.take (n - 2)))⟩, s)

/-- Reads packets one after the other, `n` at most, until the stream ends after one. Each comes with
the number of bytes after it; the last part of the result says why the next cannot be read. -/
def Packet.readAll : Nat → List UInt8 → List (Packet × Nat) × Option ControlError
  | 0, _ => ([], none)
  | n + 1, s => match Packet.read s with
    | .error e => ([], some e)
    | .ok (p, []) => ([(p, 0)], none)
    | .ok (p, rest) =>
      let (ps, e) := readAll n rest
      ((p, rest.length) :: ps, e)

end Moderation.Rcon
