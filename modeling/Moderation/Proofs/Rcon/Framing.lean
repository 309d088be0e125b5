import Moderation.Proofs.Rcon.Frame
/-!
Framing. Packets written one after the other are read back one after the other, and exactly their
bytes are taken from the stream; what is cut off or too long is never taken for a packet.
-/
namespace Moderation.Rcon.Packet
open Number Text

def readMany : Nat → List UInt8 → Except ControlError (List Packet × List UInt8)
  | 0, s => .ok ([], s)
  | n + 1, s => do
    let (p, s) ← Packet.read s
    let (ps, s) ← readMany n s
    return (p :: ps, s)

structure Fits (p : Packet) : Prop where
  id : int32.Holds p.id
  kind : int32.Holds p.kind
  size_le : Utf8.size p.body.toList ≤ 4096

def Fits.frame {p : Packet} (h : p.Fits) : Frame where
  id := p.id
  kind := p.kind
  body := Utf8.encode p.body.toList ++ [0, 0]
  holds_id := h.id
  holds_kind := h.kind
  two_le := by simp
  length_le := by
    have := h.size_le
    simp only [Utf8.size] at this
    simp
    omega

theorem Fits.bytes_frame {p : Packet} (h : p.Fits) : h.frame.bytes = p.encode := by
  have hsize : h.frame.size = 10 + (Utf8.encode p.body.toList).length := by
    simp only [Frame.size, frame, List.length_append, List.length_cons, List.length_nil]
    omega
  rw [Frame.bytes, hsize, encode]
  simp only [frame, List.append_assoc]

theorem text_of_body {f : Frame} {t : List Char} (h : f.body = Utf8.encode t ++ [0, 0]) :
    f.text = String.ofList t := by
  have hlen : f.body.length - 2 = (Utf8.encode t).length := by simp [h]
  rw [Frame.text, hlen, h, List.take_left, Utf8.decode_encode]

theorem Fits.packet_frame {p : Packet} (h : p.Fits) : h.frame.packet = p := by
  have htext : h.frame.text = p.body := (text_of_body rfl).trans String.ofList_toList
  rw [Frame.packet, htext]
  rfl

theorem read_encode {p : Packet} (h : p.Fits) (rest : List UInt8) :
    Packet.read (p.encode ++ rest) = .ok (p, rest) := by
  rw [← h.bytes_frame, read_frame, h.packet_frame]

theorem readMany_encode {ps : List Packet} (h : ∀ p ∈ ps, p.Fits) (rest : List UInt8) :
    readMany ps.length (ps.flatMap encode ++ rest) = .ok (ps, rest) := by
  induction ps with
  | nil => rfl
  | cons p ps ih =>
    have hp := h p (List.mem_cons_self ..)
    have hps := ih fun q hq => h q (List.mem_cons_of_mem p hq)
    rw [List.flatMap_cons, List.append_assoc, List.length_cons, readMany]
    simp only [read_encode hp, hps, bind, Except.bind, pure, Except.pure]

theorem cut_of_append {f : Frame} {start more : List UInt8} (h : start ++ more = f.bytes)
    (hmore : more ≠ []) : Cut start := by
  obtain hshort | hlong := Nat.lt_or_ge start.length 4
  · exact .inl hshort
  obtain ⟨n, t, -, rfl⟩ := exists_eq_int32Bytes hlong
  simp only [Frame.bytes, List.append_assoc] at h
  obtain ⟨hn, ht⟩ := List.append_inj h rfl
  have hlen := congrArg List.length ht
  have hpos : 0 < more.length := List.length_pos_of_ne_nil hmore
  simp only [List.length_append, length_int32Bytes] at hlen
  refine .inr ⟨f.size, t, f.size_mem.1, f.size_mem.2, by rw [hn], ?_⟩
  simp only [Frame.size]
  omega

/-- A text that no frame can carry announces a size that is refused. -/
theorem read_encode_of_long {p : Packet} (hlong : 4096 < Utf8.size p.body.toList)
    (hmax : Utf8.size p.body.toList < Nat.pow 2 31 - 10) (rest : List UInt8) :
    Packet.read (p.encode ++ rest) =
      .error (.protocol ("packet size " ++ showInt (10 + Utf8.size p.body.toList))) := by
  simp only [Utf8.size, Nat.pow_eq] at hlong hmax ⊢
  have hholds : int32.Holds (10 + (Utf8.encode p.body.toList).length) := int32_holds_iff.2 (by omega)
  have hmisfit : ¬ (minSize ≤ (10 : Int) + (Utf8.encode p.body.toList).length ∧
      (10 : Int) + (Utf8.encode p.body.toList).length ≤ maxSize) := by
    simp only [minSize, maxSize]
    omega
  simp only [encode, List.append_assoc]
  exact read_misfit hholds hmisfit _

/-- A frame whose body is a text with two zero bytes at its end is what its packet is written as. -/
theorem encode_packet {f : Frame} {t : List Char} (htext : f.body = Utf8.encode t)
    (hzeros : [0, 0] <:+ f.body) : f.packet.encode = f.bytes := by
  -- without its two zero bytes the body is still a text, and reading undoes writing for that one
  obtain ⟨bytes, hbytes⟩ := hzeros
  have hall : Utf8.encode t = (bytes ++ [0]) ++ [0] := by
    rw [← htext, ← hbytes, List.append_assoc]
    rfl
  obtain ⟨t', -, ht'⟩ := Utf8.exists_of_encode_eq_concat hall
  obtain ⟨t'', -, rfl⟩ := Utf8.exists_of_encode_eq_concat ht'
  have hbody : f.packet.body.toList = t'' := by
    rw [Frame.packet, text_of_body hbytes.symm, String.toList_ofList]
  have hsize : f.size = 10 + (Utf8.encode t'').length := by
    simp only [Frame.size, ← hbytes, List.length_append, List.length_cons, List.length_nil]
    omega
  rw [encode, hbody, Frame.bytes, hsize, ← hbytes]
  simp only [Frame.packet, List.append_assoc]

/-- Reading undoes writing, packet by packet and whatever follows; a packet that is cut off is an
early end, and one that is too long is refused. What is read as a packet takes exactly the bytes
that its size announces, and if they hold a text with two zero bytes at its end, they are what the
packet is written as. -/
theorem framing_exact :
    (∀ ps rest, (∀ p ∈ ps, Fits p) →
      readMany ps.length (ps.flatMap encode ++ rest) = .ok (ps, rest)) ∧
    (∀ p, Fits p → ∀ start more, start ++ more = p.encode → more ≠ [] →
      Packet.read start = .error (.io .unexpectedEof)) ∧
    (∀ (p : Packet) rest, 4096 < Utf8.size p.body.toList →
      Utf8.size p.body.toList < Nat.pow 2 31 - 10 →
      Packet.read (p.encode ++ rest) =
        .error (.protocol ("packet size " ++ showInt (10 + Utf8.size p.body.toList)))) ∧
    (∀ s p rest, Packet.read s = .ok (p, rest) → ∃ size consumed,
      s = consumed ++ rest ∧ consumed.take 4 = int32Bytes size ∧
      10 ≤ size ∧ size ≤ 4106 ∧ (consumed.length : Int) = 4 + size ∧
      ((∃ t, consumed.drop 12 = Utf8.encode t) → [0, 0] <:+ consumed.drop 12 →
        p.encode = consumed)) := by
  refine ⟨fun ps rest h => readMany_encode h rest, fun p hp start more h hmore => ?_,
    fun p rest hlong hmax => read_encode_of_long hlong hmax rest, fun s p rest h => ?_⟩
  · rw [← hp.bytes_frame] at h
    exact read_cut (cut_of_append h hmore)
  · obtain ⟨f, rfl, rfl⟩ := exists_frame h
    have hbody : f.bytes.drop 12 = f.body := rfl
    refine ⟨f.size, f.bytes, rfl, rfl, f.size_mem.1, f.size_mem.2, ?_, ?_⟩
    · rw [f.length_bytes, Frame.size]
      omega
    · rw [hbody]
      rintro ⟨t, ht⟩ hzeros
      exact encode_packet ht hzeros

def gappedPacket : Packet := ⟨-1, 2147483647, "a\x00\u00e9"⟩

def emptyPacket : Packet := ⟨2, 0, ""⟩

def longPacket : Packet := ⟨2, 0, String.ofList (List.replicate 4097 'a')⟩

theorem fits_gappedPacket : Fits gappedPacket := ⟨by decide, by decide, by decide⟩

theorem fits_emptyPacket : Fits emptyPacket := ⟨by decide, by decide, by decide⟩

theorem size_replicate (n : Nat) : Utf8.size (List.replicate n 'a') = n := by
  simp [Utf8.size, Utf8.encode, List.length_flatMap, Utf8.encodeChar]

theorem size_longPacket : Utf8.size longPacket.body.toList = 4097 := by
  rw [longPacket, String.toList_ofList, size_replicate]

theorem framing_exact_gapped :
    (∀ p ∈ [gappedPacket, emptyPacket], Fits p) ∧
    readMany 2 (gappedPacket.encode ++ emptyPacket.encode ++ [5]) =
      .ok ([gappedPacket, emptyPacket], [5]) ∧
    Packet.read (gappedPacket.encode.take 17) = .error (.io .unexpectedEof) ∧
    Packet.read (longPacket.encode ++ [5]) =
      .error (.protocol ("packet size " ++ showInt (10 + 4097))) ∧
    ∃ consumed, gappedPacket.encode ++ [5] = consumed ++ [5] ∧ (consumed.length : Int) = 4 + 14 ∧
      gappedPacket.encode = consumed := by
  obtain ⟨hmany, hcut, hlong, hback⟩ := framing_exact
  have hfits : ∀ p ∈ [gappedPacket, emptyPacket], Fits p := by
    intro p hp
    obtain rfl | hp := List.mem_cons.1 hp
    · exact fits_gappedPacket
    · rw [List.mem_singleton.1 hp]
      exact fits_emptyPacket
  have hsize : (4096 : Nat) < Utf8.size longPacket.body.toList := by simp [size_longPacket]
  have hlong' := hlong longPacket [5] hsize (by rw [size_longPacket]; decide)
  rw [size_longPacket] at hlong'
  refine ⟨hfits, hmany _ [5] hfits, ?_, hlong', ?_⟩
  · exact hcut gappedPacket fits_gappedPacket _ _ (List.take_append_drop 17 _) (by decide)
  · obtain ⟨size, consumed, hs, hhead, -, -, hlen, hexact⟩ :=
      hback _ gappedPacket [5] (read_encode fits_gappedPacket [5])
    have hconsumed := List.append_cancel_right hs
    subst hconsumed
    exact ⟨_, rfl, by decide, hexact ⟨"a\x00\u00e9\x00\x00".toList, by decide⟩ (by decide)⟩

end Moderation.Rcon.Packet
