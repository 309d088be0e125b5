import Moderation.Number.Range
import Moderation.Proofs.Text.Utf8
import Moderation.Rcon.Session
/-!
Packets on the wire. Every stream of bytes starts with a frame, which is read as one packet, or with
a size that no frame has, or it ends inside a frame; nothing else can be read.
-/
namespace Moderation.Rcon
open Number Text

theorem int32_holds_iff {n : Int} : int32.Holds n ↔ -2147483648 ≤ n ∧ n < 2147483648 := by
  simp only [Range.Holds, Range.signed, Nat.reduceSub, Nat.pow_eq]
  omega

theorem length_int32Bytes (n : Int) : (int32Bytes n).length = 4 := rfl

theorem readInt32_append {n : Int} (h : int32.Holds n) (rest : List UInt8) :
    readInt32 (int32Bytes n ++ rest) = .ok (n, rest) := by
  obtain ⟨hlow, hhigh⟩ := int32_holds_iff.1 h
  simp only [int32Bytes, List.cons_append, List.nil_append, readInt32, int32OfBytes, Nat.toUInt8,
    UInt8.toNat_ofNat', Nat.pow_eq]
  congr 2
  omega

theorem int32Bytes_of_bytes (a b c d : UInt8) : int32Bytes (int32OfBytes a b c d) = [a, b, c, d] := by
  have ha := a.toNat_lt
  have hb := b.toNat_lt
  have hc := c.toNat_lt
  have hd := d.toNat_lt
  simp only [int32Bytes, int32OfBytes, Nat.pow_eq, List.cons.injEq, and_true, ← UInt8.toNat_inj,
    Nat.toUInt8, UInt8.toNat_ofNat']
  omega

theorem int32_holds_ofBytes (a b c d : UInt8) : int32.Holds (int32OfBytes a b c d) := by
  have ha := a.toNat_lt
  have hb := b.toNat_lt
  have hc := c.toNat_lt
  have hd := d.toNat_lt
  rw [int32_holds_iff]
  simp only [int32OfBytes, Nat.pow_eq]
  omega

theorem exists_eq_int32Bytes {s : List UInt8} (h : 4 ≤ s.length) :
    ∃ n rest, int32.Holds n ∧ s = int32Bytes n ++ rest := by
  match s with
  | a :: b :: c :: d :: rest =>
    refine ⟨int32OfBytes a b c d, rest, int32_holds_ofBytes a b c d, ?_⟩
    rw [int32Bytes_of_bytes]
    rfl
  | [] | [_] | [_, _] | [_, _, _] => simp at h

theorem readInt32_of_length_lt {s : List UInt8} (h : s.length < 4) :
    readInt32 s = .error (.io .unexpectedEof) := by
  unfold readInt32
  split
  next =>
    simp only [List.length_cons] at h
    omega
  next => rfl

theorem readBytes_append {n : Nat} {bytes : List UInt8} (h : bytes.length = n)
    (rest : List UInt8) : readBytes n (bytes ++ rest) = .ok (bytes, rest) := by
  subst h
  simp [readBytes]

theorem readBytes_of_length_lt {n : Nat} {s : List UInt8} (h : s.length < n) :
    readBytes n s = .error (.io .unexpectedEof) := if_pos h

/-- A packet on the wire: its id, its kind, and all bytes after them, of which the last two belong
to no text. -/
structure Frame where
  id : Int
  kind : Int
  body : List UInt8
  holds_id : int32.Holds id
  holds_kind : int32.Holds kind
  two_le : 2 ≤ body.length
  length_le : body.length ≤ 4098

namespace Frame

def size (f : Frame) : Int := 8 + f.body.length

def bytes (f : Frame) : List UInt8 :=
  int32Bytes f.size ++ int32Bytes f.id ++ int32Bytes f.kind ++ f.body

def text (f : Frame) : String := String.ofList (Utf8.decode (f.body.take (f.body.length - 2)))

def packet (f : Frame) : Packet := ⟨f.id, f.kind, f.text⟩

theorem size_mem (f : Frame) : minSize ≤ f.size ∧ f.size ≤ maxSize := by
  have := f.two_le
  have := f.length_le
  simp only [size, minSize, maxSize]
  omega

theorem holds_size (f : Frame) : int32.Holds f.size := by
  have h := f.size_mem
  rw [int32_holds_iff]
  simp only [minSize, maxSize] at h
  omega

theorem length_bytes (f : Frame) : f.bytes.length = 12 + f.body.length := by
  simp only [bytes, List.length_append, length_int32Bytes]

end Frame

namespace Packet

/-- A frame is read as its packet, and nothing after it is touched. -/
theorem read_frame (f : Frame) (rest : List UInt8) :
    Packet.read (f.bytes ++ rest) = .ok (f.packet, rest) := by
  have hsize := f.size_mem
  have hfits : ¬ (f.size < minSize ∨ maxSize < f.size) := by omega
  have hlen : f.body.length = (f.size - 8).toNat := by
    simp only [Frame.size]
    omega
  simp only [Packet.read, Frame.bytes, List.append_assoc, readInt32_append f.holds_size,
    readInt32_append f.holds_id, readInt32_append f.holds_kind, readBytes_append hlen, hfits,
    bind, Except.bind, pure, Except.pure, if_false]
  rw [← hlen]
  rfl

theorem read_misfit {n : Int} (h : int32.Holds n) (hfit : ¬ (minSize ≤ n ∧ n ≤ maxSize))
    (rest : List UInt8) :
    Packet.read (int32Bytes n ++ rest) = .error (.protocol ("packet size " ++ showInt n)) := by
  have hmisfit : n < minSize ∨ maxSize < n := by omega
  simp only [Packet.read, readInt32_append h, hmisfit, bind, Except.bind, if_true]

/-- A stream that ends before the end of its first packet. -/
def Cut (s : List UInt8) : Prop :=
  s.length < 4 ∨
    ∃ n t, minSize ≤ n ∧ n ≤ maxSize ∧ s = int32Bytes n ++ t ∧ (t.length : Int) < n

theorem read_cut {s : List UInt8} (h : Cut s) :
    Packet.read s = .error (.io .unexpectedEof) := by
  obtain hshort | ⟨n, t, hmin, hmax, rfl, hlen⟩ := h
  · simp only [Packet.read, readInt32_of_length_lt hshort, bind, Except.bind]
  simp only [minSize, maxSize] at hmin hmax
  have hn : int32.Holds n := int32_holds_iff.2 (by omega)
  have hfits : ¬ (n < 10 ∨ 4106 < n) := by omega
  simp only [Packet.read, readInt32_append hn, minSize, maxSize, hfits, bind, Except.bind,
    if_false]
  obtain hshort | hlong := Nat.lt_or_ge t.length 4
  · rw [readInt32_of_length_lt hshort]
  obtain ⟨id, t, hid, rfl⟩ := exists_eq_int32Bytes hlong
  rw [List.length_append, length_int32Bytes] at hlen
  rw [readInt32_append hid]
  simp only
  obtain hshort | hlong := Nat.lt_or_ge t.length 4
  · rw [readInt32_of_length_lt hshort]
  obtain ⟨kind, t, hkind, rfl⟩ := exists_eq_int32Bytes hlong
  rw [List.length_append, length_int32Bytes] at hlen
  rw [readInt32_append hkind]
  simp only
  rw [readBytes_of_length_lt (by omega)]

inductive Opening : List UInt8 → Prop where
  | frame (f : Frame) (rest : List UInt8) : Opening (f.bytes ++ rest)
  | misfit {n : Int} (h : int32.Holds n) (hfit : ¬ (minSize ≤ n ∧ n ≤ maxSize))
    (rest : List UInt8) : Opening (int32Bytes n ++ rest)
  | cut {s : List UInt8} (h : Cut s) : Opening s

theorem opening (s : List UInt8) : Opening s := by
  obtain hshort | hlong := Nat.lt_or_ge s.length 4
  · exact .cut (.inl hshort)
  obtain ⟨n, t, hn, rfl⟩ := exists_eq_int32Bytes hlong
  by_cases hfit : minSize ≤ n ∧ n ≤ maxSize
  · by_cases hlen : (t.length : Int) < n
    · exact .cut (.inr ⟨n, t, hfit.1, hfit.2, rfl, hlen⟩)
    -- a size that fits leaves room for both integers, so the body has at least two bytes
    simp only [minSize, maxSize] at hfit
    obtain ⟨id, t, hid, rfl⟩ := exists_eq_int32Bytes (s := t) (by omega)
    rw [List.length_append, length_int32Bytes] at hlen
    obtain ⟨kind, t, hkind, rfl⟩ := exists_eq_int32Bytes (s := t) (by omega)
    rw [List.length_append, length_int32Bytes] at hlen
    have hbody : (t.take (n - 8).toNat).length = (n - 8).toNat := by
      rw [List.length_take]
      omega
    let f : Frame :=
      ⟨id, kind, t.take (n - 8).toNat, hid, hkind, by omega, by omega⟩
    have hsize : f.size = n := by
      simp only [f, Frame.size, hbody]
      omega
    have hbytes : int32Bytes n ++ (int32Bytes id ++ (int32Bytes kind ++ t)) =
        f.bytes ++ t.drop (n - 8).toNat := by
      rw [Frame.bytes, hsize]
      simp only [f, List.append_assoc, List.take_append_drop]
    rw [hbytes]
    exact .frame f _
  · exact .misfit hn hfit t

/-- A packet that is read stands at the start of the stream. -/
theorem exists_frame {s rest : List UInt8} {p : Packet} (h : Packet.read s = .ok (p, rest)) :
    ∃ f : Frame, s = f.bytes ++ rest ∧ p = f.packet := by
  cases opening s with
  | frame f rest' =>
    rw [read_frame] at h
    cases h
    exact ⟨f, rfl, rfl⟩
  | misfit hn hfit rest' =>
    rw [read_misfit hn hfit] at h
    cases h
  | cut hcut =>
    rw [read_cut hcut] at h
    cases h

end Packet
end Moderation.Rcon
