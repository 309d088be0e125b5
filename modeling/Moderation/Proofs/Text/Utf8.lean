import Mathlib.Data.List.Basic
import Moderation.Text.Utf8
/-!
UTF-8 reads back what it writes, and a text ends with NUL exactly if its bytes end with a zero byte.
-/
namespace Moderation.Text.Utf8

theorem toNat_toUInt8 {n : Nat} (h : n < 256) : n.toUInt8.toNat = n := by
  rw [Nat.toUInt8, UInt8.toNat_ofNat']
  omega

theorem isTail_iff {b : UInt8} : isTail b = true ↔ 0x80 ≤ b.toNat ∧ b.toNat ≤ 0xBF := by
  simp [isTail, UInt8.le_iff_toNat_le]

theorem isTail_toUInt8 (n : Nat) : isTail (0x80 + n % 64).toUInt8 = true := by
  rw [isTail_iff, toNat_toUInt8 (by omega)]
  omega

/-- Four first bytes narrow the range of the byte after them. -/
theorem isSecond_of_isTail {a b : UInt8} (hb : isTail b = true)
    (hE0 : a.toNat = 0xE0 → 0xA0 ≤ b.toNat) (hED : a.toNat = 0xED → b.toNat ≤ 0x9F)
    (hF0 : a.toNat = 0xF0 → 0x90 ≤ b.toNat) (hF4 : a.toNat = 0xF4 → b.toNat ≤ 0x8F) :
    isSecond a b = true := by
  have htail := isTail_iff.1 hb
  simp only [isSecond, ← UInt8.toNat_inj, UInt8.le_iff_toNat_le, UInt8.reduceToNat, hb]
  split
  next h => simpa using ⟨hE0 h, htail.2⟩
  next =>
    split
    next h => simpa using ⟨htail.1, hED h⟩
    next =>
      split
      next h => simpa using ⟨hF0 h, htail.2⟩
      next =>
        split
        next h => simpa using ⟨htail.1, hF4 h⟩
        next => rfl

section First
variable {a b c d : UInt8} (rest : List UInt8)

theorem first_one (ha : a.toNat < 0x80) : first a rest = (Char.ofNat a.toNat, 0) := by
  have hlt : a < 0x80 := UInt8.lt_iff_toNat_lt.2 ha
  simp [first, hlt]

theorem first_two (ha : 0xC2 ≤ a.toNat ∧ a.toNat ≤ 0xDF) (hb : isTail b = true) :
    first a (b :: rest) = (codePoint (a.toNat % 32) [b], 1) := by
  have hnot : ¬ a.toNat < 0x80 := by omega
  simp [first, UInt8.lt_iff_toNat_lt, UInt8.le_iff_toNat_le, hnot, ha, hb]

theorem first_three (ha : 0xE0 ≤ a.toNat ∧ a.toNat ≤ 0xEF) (hb : isSecond a b = true)
    (hc : isTail c = true) :
    first a (b :: c :: rest) = (codePoint (a.toNat % 16) [b, c], 2) := by
  have hnot : ¬ a.toNat < 0x80 := by omega
  have hnot' : ¬ a.toNat ≤ 0xDF := by omega
  simp [first, UInt8.lt_iff_toNat_lt, UInt8.le_iff_toNat_le, hnot, hnot', ha, hb, hc]

theorem first_four (ha : 0xF0 ≤ a.toNat ∧ a.toNat ≤ 0xF4) (hb : isSecond a b = true)
    (hc : isTail c = true) (hd : isTail d = true) :
    first a (b :: c :: d :: rest) = (codePoint (a.toNat % 8) [b, c, d], 3) := by
  have hnot : ¬ a.toNat < 0x80 := by omega
  have hnot' : ¬ a.toNat ≤ 0xDF := by omega
  have hnot'' : ¬ a.toNat ≤ 0xEF := by omega
  simp [first, UInt8.lt_iff_toNat_lt, UInt8.le_iff_toNat_le, hnot, hnot', hnot'', ha, hb, hc, hd]

end First

theorem decode_cons (a : UInt8) (s : List UInt8) :
    decode (a :: s) = (first a s).1 :: decode (s.drop (first a s).2) := by
  rw [decode]

/-- A character is read back from its bytes, whatever follows them. -/
theorem decode_encodeChar (c : Char) (rest : List UInt8) :
    decode (encodeChar c ++ rest) = c :: decode rest := by
  have hvalid : c.toNat < 0xD800 ∨ 0xDFFF < c.toNat ∧ c.toNat < 0x110000 := c.valid
  have hback : Char.ofNat c.toNat = c := c.ofNat_toNat
  -- one case for each number of bytes; all that is used of the character is the range of its number
  unfold encodeChar
  generalize c.toNat = n at hvalid hback
  have htail (k : Nat) : (0x80 + k % 64).toUInt8.toNat = 0x80 + k % 64 := toNat_toUInt8 (by omega)
  simp only
  split
  next h1 =>
    have ha : n.toUInt8.toNat = n := toNat_toUInt8 (by omega)
    rw [List.singleton_append, decode_cons, first_one rest (by omega), ha, hback, List.drop_zero]
  next h1 =>
    split
    next h2 =>
      have ha : (0xC0 + n / 64).toUInt8.toNat = 0xC0 + n / 64 := toNat_toUInt8 (by omega)
      have hpoint : codePoint ((0xC0 + n / 64) % 32) [(0x80 + n % 64).toUInt8] = c := by
        rw [← hback, codePoint]
        simp only [List.foldl_cons, List.foldl_nil, htail]
        congr 1
        omega
      rw [List.cons_append, List.cons_append, List.nil_append, decode_cons,
        first_two rest (by omega) (isTail_toUInt8 n), ha, hpoint, List.drop_one, List.tail_cons]
    next h2 =>
      split
      next h3 =>
        have ha : (0xE0 + n / 4096).toUInt8.toNat = 0xE0 + n / 4096 := toNat_toUInt8 (by omega)
        have hsecond : isSecond (0xE0 + n / 4096).toUInt8 (0x80 + n / 64 % 64).toUInt8 = true := by
          refine isSecond_of_isTail (isTail_toUInt8 _) ?_ ?_ ?_ ?_ <;> rw [ha, htail] <;> omega
        have hpoint : codePoint ((0xE0 + n / 4096) % 16)
            [(0x80 + n / 64 % 64).toUInt8, (0x80 + n % 64).toUInt8] = c := by
          rw [← hback, codePoint]
          simp only [List.foldl_cons, List.foldl_nil, htail]
          congr 1
          omega
        simp only [List.cons_append, List.nil_append]
        rw [decode_cons, first_three rest (by omega) hsecond (isTail_toUInt8 n), ha, hpoint]
        rfl
      next h3 =>
        have ha : (0xF0 + n / 262144).toUInt8.toNat = 0xF0 + n / 262144 :=
          toNat_toUInt8 (by omega)
        have hsecond :
            isSecond (0xF0 + n / 262144).toUInt8 (0x80 + n / 4096 % 64).toUInt8 = true := by
          refine isSecond_of_isTail (isTail_toUInt8 _) ?_ ?_ ?_ ?_ <;> rw [ha, htail] <;> omega
        have hpoint : codePoint ((0xF0 + n / 262144) % 8) [(0x80 + n / 4096 % 64).toUInt8,
            (0x80 + n / 64 % 64).toUInt8, (0x80 + n % 64).toUInt8] = c := by
          rw [← hback, codePoint]
          simp only [List.foldl_cons, List.foldl_nil, htail]
          congr 1
          omega
        simp only [List.cons_append, List.nil_append]
        rw [decode_cons, first_four rest (by omega) hsecond (isTail_toUInt8 _) (isTail_toUInt8 n),
          ha, hpoint]
        rfl

theorem encode_cons (c : Char) (s : List Char) : encode (c :: s) = encodeChar c ++ encode s :=
  List.flatMap_cons

theorem encode_append (s t : List Char) : encode (s ++ t) = encode s ++ encode t :=
  List.flatMap_append

theorem decode_encode (s : List Char) : decode (encode s) = s := by
  induction s with
  | nil => rw [show encode [] = [] from rfl, decode]
  | cons c s ih => rw [encode_cons, decode_encodeChar, ih]

/-- Only NUL has a zero byte at its end. -/
theorem eq_nul_of_getLast? {c : Char} (h : (encodeChar c).getLast? = some 0) : c = '\x00' := by
  have htail (k : Nat) : (0x80 + k % 64).toUInt8 ≠ 0 := by
    rw [ne_eq, ← UInt8.toNat_inj, toNat_toUInt8 (by omega)]
    simp
  unfold encodeChar at h
  simp only at h
  split at h
  next h1 =>
    have hzero : c.toNat.toUInt8 = 0 := by simpa using h
    rw [← UInt8.toNat_inj, toNat_toUInt8 (by omega)] at hzero
    exact Char.toNat_inj.1 hzero
  next =>
    split at h
    next => exact absurd (by simpa using h) (htail c.toNat)
    next =>
      split at h
      next => exact absurd (by simpa using h) (htail c.toNat)
      next => exact absurd (by simpa using h) (htail c.toNat)

theorem encodeChar_ne_nil (c : Char) : encodeChar c ≠ [] := by
  unfold encodeChar
  simp only
  split
  · simp
  · split
    · simp
    · split <;> simp

/-- What stands before a zero byte at the end of the bytes of a text is a text as well. -/
theorem exists_of_encode_eq_concat {s : List Char} {bytes : List UInt8}
    (h : encode s = bytes ++ [0]) : ∃ t, s = t ++ ['\x00'] ∧ encode t = bytes := by
  obtain rfl | ⟨t, c, hs⟩ := s.eq_nil_or_concat
  · simp [encode] at h
  · rw [List.concat_eq_append] at hs
    subst hs
    rw [encode_append, show encode [c] = encodeChar c from List.append_nil _] at h
    have hlast : (encodeChar c).getLast? = some 0 := by
      have hboth := congrArg List.getLast? h
      rwa [List.getLast?_append_of_ne_nil _ (encodeChar_ne_nil c), List.getLast?_concat] at hboth
    obtain rfl := eq_nul_of_getLast? hlast
    exact ⟨t, rfl, List.append_cancel_right h⟩

end Moderation.Text.Utf8
