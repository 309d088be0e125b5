import Mathlib.Data.List.Basic
import Mathlib.Data.List.Induction
import Moderation.Text.Numeral
/-!
Numerals. Reading accepts exactly the rows of digits, with or without a sign before them, and gives
the number that the places of the digits say. Different numbers have different digits, and no more
of these than they need.
-/
namespace Moderation.Text
variable {s : List Char} {m n : Nat} {c : Char}

inductive Spells : List Char → Nat → Prop
  | one {k : Nat} (hk : k < 10) : Spells [digit k] k
  | concat {s : List Char} {n k : Nat} (hs : Spells s n) (hk : k < 10) :
    Spells (s ++ [digit k]) (10 * n + k)

inductive SpellsInteger : List Char → Int → Prop
  | bare {s : List Char} {n : Nat} (h : Spells s n) : SpellsInteger s n
  | plus {s : List Char} {n : Nat} (h : Spells s n) : SpellsInteger ('+' :: s) n
  | minus {s : List Char} {n : Nat} (h : Spells s n) : SpellsInteger ('-' :: s) (-n)

theorem digitValue_digit {k : Nat} (hk : k < 10) : digitValue (digit k) = k := by
  rw [digitValue, toNat_digit hk, Nat.add_sub_cancel_left]

theorem exists_digit (h : isDigit c = true) : ∃ k < 10, c = digit k := by
  have hrange : 48 ≤ c.toNat ∧ c.toNat ≤ 57 := by simpa [isDigit] using h
  have hlt : c.toNat - 48 < 10 := by omega
  refine ⟨c.toNat - 48, hlt, Char.toNat_inj.1 ?_⟩
  rw [toNat_digit hlt]
  omega

theorem Spells.isDigit_of_mem (h : Spells s n) : ∀ c ∈ s, isDigit c = true := by
  induction h with
  | one hk =>
    intro c hc
    rw [List.mem_singleton.1 hc, isDigit_digit hk]
  | concat hs hk ih =>
    intro c hc
    obtain hc | hc := List.mem_append.1 hc
    · exact ih c hc
    · rw [List.mem_singleton.1 hc, isDigit_digit hk]

theorem Spells.ne_nil (h : Spells s n) : s ≠ [] := by
  cases h with
  | one => exact List.cons_ne_nil _ _
  | concat => exact List.append_ne_nil_of_right_ne_nil _ (List.cons_ne_nil _ _)

theorem Spells.accumulate_eq (h : Spells s n) : accumulate 0 s = n := by
  induction h with
  | one hk => simp [accumulate, digitValue_digit hk]
  | concat hs hk ih =>
    rw [accumulate_append, ih]
    simp [accumulate, digitValue_digit hk]

/-- One more digit after a row of digits, or after nothing. -/
theorem spells_concat (hs : s = [] ∨ Spells s (accumulate 0 s)) (hc : isDigit c = true) :
    Spells (s ++ [c]) (accumulate 0 (s ++ [c])) := by
  obtain ⟨k, hk, rfl⟩ := exists_digit hc
  have hvalue : accumulate 0 (s ++ [digit k]) = 10 * accumulate 0 s + k := by
    rw [accumulate_append]
    simp [accumulate, digitValue_digit hk]
  rw [hvalue]
  obtain rfl | hs := hs
  · simpa [accumulate] using Spells.one hk
  · exact hs.concat hk

theorem spells_accumulate (hs : ∀ c ∈ s, isDigit c = true) : s = [] ∨ Spells s (accumulate 0 s) := by
  -- from the end, as places are counted
  induction s using List.reverseRecOn with
  | nil => exact .inl rfl
  | append_singleton s c ih =>
    have hinit := ih fun d hd => hs d (List.mem_append_left _ hd)
    exact .inr (spells_concat hinit (hs c (by simp)))

theorem natural?_eq_some_iff : natural? s = some n ↔ Spells s n := by
  unfold natural?
  constructor
  · intro h
    split at h
    next hs =>
      obtain rfl := Option.some.inj h
      exact (spells_accumulate (List.all_eq_true.1 hs.2)).resolve_left hs.1
    next => cases h
  · intro h
    rw [if_pos ⟨h.ne_nil, List.all_eq_true.2 h.isDigit_of_mem⟩, h.accumulate_eq]

theorem spells_digits (n : Nat) : Spells (digits n) n := natural?_eq_some_iff.1 (natural?_digits n)

/-- A row of digits has no sign before it. -/
theorem Spells.exists_cons (h : Spells s n) :
    ∃ c t, s = c :: t ∧ isDigit c = true ∧ c ≠ '-' ∧ c ≠ '+' := by
  obtain ⟨c, t, rfl⟩ := List.exists_cons_of_ne_nil h.ne_nil
  have hc := h.isDigit_of_mem c List.mem_cons_self
  refine ⟨c, t, rfl, hc, ?_, ?_⟩
  · rintro rfl
    exact absurd hc (by decide)
  · rintro rfl
    exact absurd hc (by decide)

theorem integer?_eq_some_iff {i : Int} : integer? s = some i ↔ SpellsInteger s i := by
  constructor
  · intro h
    unfold integer? at h
    split at h <;> obtain ⟨n, hn, rfl⟩ := Option.map_eq_some_iff.1 h
    next => exact .minus (natural?_eq_some_iff.1 hn)
    next => exact .plus (natural?_eq_some_iff.1 hn)
    next => exact .bare (natural?_eq_some_iff.1 hn)
  · intro h
    cases h with
    | bare h =>
      have hread := natural?_eq_some_iff.2 h
      obtain ⟨c, t, rfl, -, hminus, hplus⟩ := h.exists_cons
      simp [integer?, hminus, hplus, hread]
    | plus h => simp [integer?, natural?_eq_some_iff.2 h]
    | minus h => simp [integer?, natural?_eq_some_iff.2 h]

/-- A number is read back from its decimal notation. -/
theorem integer?_decimal (n : Int) : integer? (decimal n) = some n := by
  have hspells := spells_digits n.natAbs
  rw [integer?_eq_some_iff, decimal]
  split
  next hneg =>
    have hn : -(n.natAbs : Int) = n := by omega
    simpa only [hn] using SpellsInteger.minus hspells
  next hneg =>
    have hn : (n.natAbs : Int) = n := by omega
    simpa only [hn] using SpellsInteger.bare hspells

theorem unsigned?_of_spells (h : Spells s n) : unsigned? s = some n := by
  have hread := natural?_eq_some_iff.2 h
  obtain ⟨c, t, rfl, -, -, hplus⟩ := h.exists_cons
  simp [unsigned?, hplus, hread]

theorem digits_injective (h : digits m = digits n) : m = n := by
  rw [← accumulate_digits m, h, accumulate_digits]

theorem not_mem_digits (h : isDigit c = false) (n : Nat) : c ∉ digits n := by
  intro hmem
  rw [(spells_digits n).isDigit_of_mem c hmem] at h
  cases h

theorem takeWhile_isDigit_digits (hc : isDigit c = false) (n : Nat) (s : List Char) :
    (digits n ++ c :: s).takeWhile isDigit = digits n := by
  rw [List.takeWhile_append_of_pos (spells_digits n).isDigit_of_mem,
    List.takeWhile_cons_of_neg (by simp [hc]), List.append_nil]

/-- A number is told apart from what comes after it by a mark. -/
theorem digits_append_cons_inj {s t : List Char} (hc : isDigit c = false)
    (h : digits m ++ c :: s = digits n ++ c :: t) : m = n ∧ s = t := by
  have hdigits := congrArg (List.takeWhile isDigit) h
  rw [takeWhile_isDigit_digits hc, takeWhile_isDigit_digits hc] at hdigits
  obtain rfl := digits_injective hdigits
  exact ⟨rfl, by simpa using h⟩

theorem length_digits_le {width : Nat} (h : n < Nat.pow 10 (width + 1)) :
    (digits n).length ≤ width + 1 := by
  induction width generalizing n with
  | zero =>
    have hn : n < 10 := h
    rw [digits, if_pos hn]
    exact Nat.le_refl 1
  | succ width ih =>
    have hpow : Nat.pow 10 (width + 1 + 1) = Nat.pow 10 (width + 1) * 10 := rfl
    rw [digits]
    split
    · simp
    · have hlen := ih (n := n / 10) (by omega)
      simp only [List.length_append, List.length_singleton]
      omega

theorem length_decimal_le {width : Nat} {n : Int} (h : n.natAbs < Nat.pow 10 (width + 1)) :
    (decimal n).length ≤ width + 2 := by
  have hdigits := length_digits_le h
  unfold decimal
  split
  · exact Nat.succ_le_succ hdigits
  · exact Nat.le_succ_of_le hdigits

theorem toList_showInt (n : Int) : (showInt n).toList = decimal n := String.toList_ofList

theorem showInt_ne_empty (n : Int) : showInt n ≠ "" := by
  rw [ne_eq, ← String.toList_eq_nil_iff, toList_showInt, decimal]
  split
  · exact List.cons_ne_nil _ _
  · exact digits_ne_nil _

theorem length_padded {width : Nat} (h : n < Nat.pow 10 (width + 1)) :
    (padded (width + 1) n).length = width + 1 := by
  have hlen := length_digits_le h
  simp only [padded, List.length_append, List.length_replicate]
  omega

end Moderation.Text
