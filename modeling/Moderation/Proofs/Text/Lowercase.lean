import Mathlib.Data.List.Basic
import Moderation.Text.Lowercase
/-!
Lower case. No character of a text in lower case has another lower-case form, and between other
texts a text without a capital sigma is lowered character by character.
-/
namespace Moderation

namespace Unicode

namespace CaseRun
variable {r q : CaseRun} {m n : Nat}

def shifted (r : CaseRun) (n : Nat) : Nat :=
  match r.shift with
  | .ofNat k => n + k
  | .negSucc k => n - (k + 1)

theorem toNat_add_shift (r : CaseRun) (n : Nat) : ((n : Int) + r.shift).toNat = r.shifted n := by
  unfold shifted
  split
  next k hk =>
    rw [hk, Int.ofNat_eq_natCast]
    omega
  next k hk =>
    rw [hk]
    omega

theorem shifted_le (r : CaseRun) (h : m ≤ n) : r.shifted m ≤ r.shifted n := by
  unfold shifted
  split <;> omega

theorem shifted_add (h : m ≤ n) (hpos : 0 < r.shifted m) :
    r.shifted n + m = r.shifted m + n := by
  unfold shifted at hpos ⊢
  split at hpos <;> omega

/-- No partner of `r` is a member of `q`: one of the two rows ends before the other begins, or both
have every second code point and take turns. -/
def apart (r q : CaseRun) : Bool :=
  Nat.blt (r.shifted r.last) q.first || Nat.blt q.last (r.shifted r.first) ||
    ((Nat.beq r.step 2 || Nat.beq r.first r.last) && Nat.beq q.step 2 &&
      Nat.blt 0 (r.shifted r.first) && Nat.beq ((r.shifted r.first + q.first) % 2) 1)

theorem partner?_eq_some (h : r.partner? n = some m) :
    r.first ≤ n ∧ n ≤ r.last ∧ (n - r.first) % r.step = 0 ∧ m = r.shifted n := by
  unfold partner? at h
  split at h
  next hn => exact ⟨hn.1, hn.2.1, hn.2.2, by rw [← Option.some.inj h, toNat_add_shift]⟩
  next => cases h

theorem partner?_of_apart (h : r.apart q = true) (hm : r.partner? n = some m) :
    q.partner? m = none := by
  obtain ⟨hfirst, hlast, hstep, rfl⟩ := partner?_eq_some hm
  have hlow := r.shifted_le hfirst
  have hhigh := r.shifted_le hlast
  refine if_neg ?_
  rintro ⟨hqfirst, hqlast, hqstep⟩
  simp only [apart, Bool.or_eq_true, Bool.and_eq_true, Nat.blt_eq, Nat.beq_eq] at h
  obtain (hbelow | habove) | ⟨⟨⟨hr, hq⟩, hpos⟩, hodd⟩ := h
  · omega
  · omega
  · have hmove := shifted_add hfirst hpos
    rw [hq] at hqstep
    obtain hr | hr := hr
    · rw [hr] at hstep
      omega
    · omega

end CaseRun

def capitalRuns : List CaseRun := ⟨0x41, 0x5A, 1, 32⟩ :: ⟨0x130, 0x130, 1, 0⟩ :: lowercaseRuns

theorem apart_capitalRuns :
    (lowercaseRuns.all fun r => capitalRuns.all r.apart) = true := by decide +kernel

/-- Neither the surrogates nor what is beyond the last character are partners. -/
theorem shifted_lowercaseRuns : (lowercaseRuns.all fun r =>
    Nat.blt (r.shifted r.last) 0xD800 ||
      Nat.blt 0xDFFF (r.shifted r.first) && Nat.blt (r.shifted r.last) 0x110000) = true := by
  decide +kernel

theorem first_lowercaseRuns : (lowercaseRuns.all fun r => Nat.ble 128 r.first) = true := by
  decide +kernel

end Unicode

namespace Text
open Unicode
variable {c : Char}

def IsLower (c : Char) : Prop := ∀ q ∈ capitalRuns, q.partner? c.toNat = none

instance (c : Char) : Decidable (IsLower c) := inferInstanceAs (Decidable (∀ q ∈ capitalRuns, _))

theorem toNat_ofNat {n : Nat} (h : n.isValidChar) : (Char.ofNat n).toNat = n := by
  rw [Char.ofNat, dif_pos h]
  rfl

theorem toNat_asciiLower (c : Char) : (asciiLower c).toNat =
    if 65 ≤ c.toNat ∧ c.toNat ≤ 90 then c.toNat + 32 else c.toNat := by
  unfold asciiLower
  split
  next h => exact toNat_ofNat (.inl (by omega))
  next => rfl

theorem asciiLower_of_not_capital (h : ¬ (65 ≤ c.toNat ∧ c.toNat ≤ 90)) : asciiLower c = c :=
  if_neg h

theorem isLower_of_ascii (h : c.toNat < 128) (hc : ¬ (65 ≤ c.toNat ∧ c.toNat ≤ 90)) :
    IsLower c := by
  intro q hq
  refine if_neg fun hin => ?_
  obtain rfl | rfl | hq : q = _ ∨ q = _ ∨ q ∈ lowercaseRuns := by simpa [capitalRuns] using hq
  · exact hc ⟨hin.1, hin.2.1⟩
  · exact absurd hin.1 (by simp only; omega)
  · have hfirst : 128 ≤ q.first := by simpa using List.all_eq_true.1 first_lowercaseRuns q hq
    omega

theorem isLower_of_beyond (h : 128 ≤ c.toNat) (hi : c.toNat ≠ 0x130)
    (hc : ∀ q ∈ lowercaseRuns, q.partner? c.toNat = none) : IsLower c := by
  intro q hq
  obtain rfl | rfl | hq : q = _ ∨ q = _ ∨ q ∈ lowercaseRuns := by simpa [capitalRuns] using hq
  · exact if_neg (by simp only; omega)
  · exact if_neg (by simp only; omega)
  · exact hc q hq

theorem isLower_ofNat_of_partner? {r : CaseRun} (hr : r ∈ lowercaseRuns) {m n : Nat}
    (h : r.partner? n = some m) : IsLower (Char.ofNat m) := by
  obtain ⟨hfirst, hlast, -, hm⟩ := CaseRun.partner?_eq_some h
  have hlow := r.shifted_le hfirst
  have hhigh := r.shifted_le hlast
  have hvalid : m.isValidChar := by
    have hall := List.all_eq_true.1 shifted_lowercaseRuns r hr
    simp only [Bool.or_eq_true, Bool.and_eq_true, Nat.blt_eq] at hall
    unfold Nat.isValidChar
    omega
  intro q hq
  rw [toNat_ofNat hvalid]
  have hapart := List.all_eq_true.1 (List.all_eq_true.1 apart_capitalRuns r hr) q hq
  exact CaseRun.partner?_of_apart hapart h

theorem asciiLower_of_isLower (h : IsLower c) : asciiLower c = c := by
  refine asciiLower_of_not_capital fun hc => ?_
  have hnone := h ⟨0x41, 0x5A, 1, 32⟩ (by simp [capitalRuns])
  simp [CaseRun.partner?, hc, Nat.mod_one] at hnone

theorem map_asciiLower {s : List Char} (h : ∀ c ∈ s, IsLower c) : s.map asciiLower = s := by
  rw [List.map_congr_left fun c hc => asciiLower_of_isLower (h c hc), List.map_id']

theorem lowerChar_of_isLower (h : IsLower c) : lowerChar c = [c] := by
  unfold lowerChar
  split
  next => rw [asciiLower_of_isLower h]
  next =>
    split
    next hi =>
      have hnone := h ⟨0x130, 0x130, 1, 0⟩ (by simp [capitalRuns])
      simp [CaseRun.partner?, hi] at hnone
    next =>
      have hnone : lowercaseRuns.findSome? (·.partner? c.toNat) = none :=
        List.findSome?_eq_none_iff.2 fun q hq => h q (by simp [capitalRuns, hq])
      rw [hnone]

theorem ne_sigma_of_isLower (h : IsLower c) : c.toNat ≠ 0x3A3 := by
  intro hc
  have hany : (capitalRuns.any fun q => (q.partner? 0x3A3).isSome) = true := by decide +kernel
  obtain ⟨q, hq, hsome⟩ := List.any_eq_true.1 hany
  rw [← hc, h q hq] at hsome
  cases hsome

theorem isLower_of_mem_lowerChar {d : Char} (h : c ∈ lowerChar d) : IsLower c := by
  unfold lowerChar at h
  split at h
  next hascii =>
    obtain rfl := List.mem_singleton.1 h
    refine isLower_of_ascii ?_ ?_ <;> rw [toNat_asciiLower] <;> split <;> omega
  next hascii =>
    split at h
    next =>
      obtain rfl | rfl : c = 'i' ∨ c = Char.ofNat 0x307 := by simpa using h
      · decide +kernel
      · decide +kernel
    next hi =>
      split at h
      next m hm =>
        obtain rfl := List.mem_singleton.1 h
        obtain ⟨r, hr, hpartner⟩ := List.exists_of_findSome?_eq_some hm
        exact isLower_ofNat_of_partner? hr hpartner
      next hnone =>
        obtain rfl := List.mem_singleton.1 h
        exact isLower_of_beyond (by omega) hi (List.findSome?_eq_none_iff.1 hnone)

theorem isLower_of_mem_lowerAfter {before s : List Char} (h : c ∈ lowerAfter before s) :
    IsLower c := by
  induction s generalizing before with
  | nil => cases h
  | cons d s ih =>
    rw [lowerAfter] at h
    obtain h | h := List.mem_append.1 h
    · split at h
      next =>
        split at h <;> obtain rfl := List.mem_singleton.1 h <;> decide +kernel
      next => exact isLower_of_mem_lowerChar h
    · exact ih h

theorem isLower_of_mem_lower {s : List Char} (h : c ∈ lower s) : IsLower c :=
  isLower_of_mem_lowerAfter h

/-- A character is lowered as an ASCII letter is if that leaves nothing to do. -/
theorem lowerChar_of_asciiLower (h : IsLower (asciiLower c)) :
    lowerChar c = [asciiLower c] ∧ c.toNat ≠ 0x3A3 := by
  by_cases hascii : c.toNat < 128
  · exact ⟨if_pos hascii, by omega⟩
  · rw [asciiLower_of_not_capital (by omega)] at h ⊢
    exact ⟨lowerChar_of_isLower h, ne_sigma_of_isLower h⟩

theorem flatMap_lowerChar {s : List Char} (h : ∀ c ∈ s, IsLower (asciiLower c)) :
    s.flatMap lowerChar = s.map asciiLower := by
  induction s with
  | nil => rfl
  | cons c s ih =>
    obtain ⟨hc, hs⟩ := List.forall_mem_cons.1 h
    rw [List.flatMap_cons, (lowerChar_of_asciiLower hc).1, ih hs, List.map_cons,
      List.singleton_append]

/-- What is lowered after a text does not depend on how the text is lowered. -/
theorem exists_lowerAfter_append (before s t : List Char) :
    ∃ u, lowerAfter before (s ++ t) = u ++ lowerAfter (s.reverse ++ before) t ∧
      (s = [] → u = []) := by
  induction s generalizing before with
  | nil => exact ⟨[], rfl, fun _ => rfl⟩
  | cons c s ih =>
    obtain ⟨u, hu, -⟩ := ih (c :: before)
    rw [List.cons_append, lowerAfter, hu, ← List.append_assoc, List.reverse_cons,
      List.append_assoc _ [c], List.singleton_append]
    exact ⟨_, rfl, nofun⟩

theorem lowerAfter_append {s : List Char} (h : ∀ c ∈ s, c.toNat ≠ 0x3A3) (before t : List Char) :
    lowerAfter before (s ++ t) = s.flatMap lowerChar ++ lowerAfter (s.reverse ++ before) t := by
  induction s generalizing before with
  | nil => rfl
  | cons c s ih =>
    rw [List.cons_append, lowerAfter, if_neg (h c List.mem_cons_self),
      ih (fun d hd => h d (List.mem_cons_of_mem c hd))]
    simp

/-- Between other texts, a text without a capital sigma is lowered character by character. -/
theorem exists_lower_between {s : List Char} (h : ∀ c ∈ s, c.toNat ≠ 0x3A3) (a b : List Char) :
    ∃ u v, lower (a ++ (s ++ b)) = u ++ (s.flatMap lowerChar ++ v) ∧ (a = [] → u = []) ∧
      (b = [] → v = []) := by
  obtain ⟨u, hu, hnone⟩ := exists_lowerAfter_append [] a (s ++ b)
  refine ⟨u, _, hu.trans (congrArg (u ++ ·) (lowerAfter_append h _ b)), hnone, ?_⟩
  rintro rfl
  rfl

end Text
end Moderation
