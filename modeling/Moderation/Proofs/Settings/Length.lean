import Moderation.Proofs.Text.Blank
import Moderation.Proofs.Text.Numeral
import Moderation.Settings.Length
import Moderation.Text.Utf8
/-!
Lengths in settings. A text says a length exactly if it is a number of units, with the seconds that
this makes, up to the longest length. As the length of a ban, such a text says that the ban is
permanent if the number is zero or the length too long for a ban.
-/
namespace Moderation.Settings
open Number Text Time
variable {s : List Char} {c : Char} {d : Span}

/-- Seconds of a unit: seconds, minutes, hours, days, weeks, months of 30 days, years of 365. -/
def unitSeconds? : Char → Option Nat
  | 's' => some 1
  | 'm' => some 60
  | 'h' => some 3600
  | 'd' => some 86400
  | 'w' => some 604800
  | 'M' => some 2592000
  | 'y' => some 31536000
  | _ => none

structure Quantity where
  numeral : List Char
  count : Int
  unit : Char
  unitSeconds : Nat
  spells : SpellsInteger numeral count
  isUnit : unitSeconds? unit = some unitSeconds

namespace Quantity

def text (q : Quantity) : List Char := q.numeral ++ [q.unit]

def seconds (q : Quantity) : Int := q.count * q.unitSeconds

end Quantity

/-- The factors of a unit are multiplied up to its seconds. -/
theorem unit_cases (c : Char) :
    (unitFactors? c = none ∧ unitSeconds? c = none) ∨
    ∃ factors k, unitFactors? c = some factors ∧ unitSeconds? c = some k ∧ 1 ≤ k ∧
      (∀ f ∈ factors, 1 ≤ f) ∧ ∀ n : Int, factors.foldl (· * ·) n = n * k := by
  unfold unitFactors? unitSeconds?
  split
  case h_8 => exact .inl ⟨rfl, by simp [*]⟩
  all_goals
    exact .inr ⟨_, _, rfl, rfl, by decide, by decide, fun n => by simp [Int.mul_assoc]⟩

theorem one_le_of_unit {k : Nat} (h : unitSeconds? c = some k) : 1 ≤ k := by
  obtain ⟨-, hnone⟩ | ⟨-, k', -, hk, hpos, -⟩ := unit_cases c
  · rw [h] at hnone
    cases hnone
  · rwa [Option.some.inj (h.symm.trans hk)]

theorem not_blank_of_isDigit (h : isDigit c = true) : isBlank c = false := by
  have hrange : 48 ≤ c.toNat ∧ c.toNat ≤ 57 := by simpa [isDigit] using h
  simp [isBlank]
  omega

theorem not_blank_of_unit {k : Nat} (h : unitSeconds? c = some k) : isBlank c = false := by
  unfold unitSeconds? at h
  split at h
  case h_8 => cases h
  all_goals rfl

theorem exists_cons_of_spellsInteger {n : Int} (h : SpellsInteger s n) :
    ∃ c rest, s = c :: rest ∧ isBlank c = false := by
  cases h with
  | bare h =>
    obtain ⟨c, rest, hs, hc, -⟩ := h.exists_cons
    exact ⟨c, rest, hs, not_blank_of_isDigit hc⟩
  | plus => exact ⟨_, _, rfl, rfl⟩
  | minus => exact ⟨_, _, rfl, rfl⟩

theorem Quantity.isBare_text (q : Quantity) : IsBare q.text := by
  obtain ⟨c, rest, hnumeral, hc⟩ := exists_cons_of_spellsInteger q.spells
  refine ⟨⟨c, rest ++ [q.unit], ?_, hc⟩, q.numeral, q.unit, rfl, not_blank_of_unit q.isUnit⟩
  rw [text, hnumeral, List.cons_append]

theorem splitLast?_eq_some_iff {init : List Char} :
    splitLast? s = some (init, c) ↔ s = init ++ [c] := by
  unfold splitLast?
  constructor
  · intro h
    split at h
    next => cases h
    next hs =>
      obtain ⟨rfl, rfl⟩ := Prod.mk.inj (Option.some.inj h)
      rw [← List.reverse_inj, hs]
      simp
  · rintro rfl
    simp

theorem int64_holds_iff {n : Int} :
    int64.Holds n ↔ -9223372036854775808 ≤ n ∧ n ≤ 9223372036854775807 := Iff.rfl

theorem ofSeconds?_of_nonneg {n : Int} (hn : 0 ≤ n) :
    Span.ofSeconds? n = if n ≤ 9223372036854775 then some (.ofSeconds n) else none := by
  have hmax : Span.maxSeconds = 9223372036854775 := by decide
  have hmin : -9223372036854775 ≤ n := by omega
  simp only [Span.ofSeconds?, hmax, hmin, true_and]

theorem le_foldl_mul {n : Int} {factors : List Int} (hn : 0 ≤ n) (h : ∀ f ∈ factors, 1 ≤ f) :
    n ≤ factors.foldl (· * ·) n := by
  induction factors generalizing n with
  | nil => exact Int.le_refl n
  | cons f factors ih =>
    obtain ⟨hf, hfactors⟩ := List.forall_mem_cons.1 h
    have hstep : n ≤ n * f := by
      simpa only [Int.mul_one] using Int.mul_le_mul_of_nonneg_left hf hn
    exact Int.le_trans hstep (ih (Int.le_trans hn hstep) hfactors)

/-- A product that leaves 64 bits on the way is beyond the longest length in the end. -/
theorem foldlM_mul?_bind_ofSeconds? {n : Int} {factors : List Int} (hn : 0 ≤ n)
    (h : ∀ f ∈ factors, 1 ≤ f) :
    (factors.foldlM int64.mul? n).bind Span.ofSeconds? =
      Span.ofSeconds? (factors.foldl (· * ·) n) := by
  induction factors generalizing n with
  | nil => rfl
  | cons f factors ih =>
    obtain ⟨hf, hfactors⟩ := List.forall_mem_cons.1 h
    have hstep : 0 ≤ n * f := Int.mul_nonneg hn (by omega)
    rw [List.foldlM_cons, List.foldl_cons, Range.mul?, Range.check?]
    split
    next => exact ih hstep hfactors
    next hout =>
      have hlarge := le_foldl_mul hstep hfactors
      rw [int64_holds_iff] at hout
      rw [ofSeconds?_of_nonneg (by omega), if_neg (by omega)]
      rfl

/-- What is read of a count and the factors of its unit. -/
theorem length?_eq {numeral : List Char} {n : Int} {factors : List Int}
    (hs : trim s = numeral ++ [c]) (hn : integer? numeral = some n)
    (hfactors : unitFactors? c = some factors) (hone : ∀ f ∈ factors, 1 ≤ f) :
    length? s =
      if 0 ≤ n ∧ factors.foldl (· * ·) n ≤ 9223372036854775 then
        some (.ofSeconds (factors.foldl (· * ·) n))
      else none := by
  have hsplit : splitLast? (trim s) = some (numeral, c) := splitLast?_eq_some_iff.2 hs
  simp only [length?, hsplit, hn, hfactors, Option.bind_eq_bind, Option.bind_some, Range.check?]
  -- a negative count is refused whether or not it fits 64 bits
  by_cases hneg : n < 0
  · have hbad : ¬ (0 ≤ n ∧ factors.foldl (· * ·) n ≤ 9223372036854775) :=
      fun h => absurd hneg (Int.not_lt.2 h.1)
    rw [if_neg hbad]
    split
    next => exact if_pos hneg
    next => rfl
  have hnonneg : 0 ≤ n := Int.not_lt.1 hneg
  have hle := le_foldl_mul hnonneg hone
  split
  next hin =>
    rw [Option.bind_some, if_neg hneg, foldlM_mul?_bind_ofSeconds? hnonneg hone,
      ofSeconds?_of_nonneg (Int.le_trans hnonneg hle)]
    simp only [hnonneg, true_and]
  next hout =>
    -- a count that does not fit is too long by itself, and the factors do not make it shorter
    rw [int64_holds_iff] at hout
    rw [if_neg (by omega)]
    rfl

/-- A number of units is read if it is not negative and no longer than the longest length. -/
theorem Quantity.length?_of_trim (q : Quantity) (h : trim s = q.text) :
    length? s =
      if 0 ≤ q.count ∧ q.seconds ≤ 9223372036854775 then some (.ofSeconds q.seconds) else none := by
  obtain ⟨-, hnone⟩ | ⟨factors, k, hfactors, hk, -, hone, hproduct⟩ := unit_cases q.unit
  · rw [q.isUnit] at hnone
    cases hnone
  · have hread := length?_eq h (integer?_eq_some_iff.2 q.spells) hfactors hone
    rwa [hproduct, Option.some.inj (hk.symm.trans q.isUnit)] at hread

/-- What is read is a number of units. -/
theorem exists_quantity (h : length? s = some d) : ∃ q : Quantity, trim s = q.text := by
  obtain ⟨⟨numeral, unit⟩, hsplit, h⟩ := Option.bind_eq_some_iff.1 h
  obtain ⟨n, hn, h⟩ := Option.bind_eq_some_iff.1 h
  obtain ⟨m, -, h⟩ := Option.bind_eq_some_iff.1 h
  obtain ⟨hfactors, -⟩ | ⟨factors, k, -, hk, -⟩ := unit_cases unit
  · simp only [hfactors] at h
    split at h <;> cases h
  · exact ⟨⟨numeral, n, unit, k, integer?_eq_some_iff.1 hn, hk⟩, splitLast?_eq_some_iff.1 hsplit⟩

/-- The lengths that are read, and nothing else. -/
theorem length?_eq_some_iff : length? s = some d ↔
    ∃ q : Quantity, Framed q.text s ∧ 0 ≤ q.count ∧ q.seconds ≤ 9223372036854775 ∧
      d = .ofSeconds q.seconds := by
  constructor
  · intro h
    obtain ⟨q, hq⟩ := exists_quantity h
    rw [q.length?_of_trim hq] at h
    split at h
    next hrange =>
      exact ⟨q, (trim_eq_iff_framed q.isBare_text).1 hq, hrange.1, hrange.2,
        (Option.some.inj h).symm⟩
    next => cases h
  · rintro ⟨q, hq, hcount, hseconds, rfl⟩
    rw [q.length?_of_trim ((trim_eq_iff_framed q.isBare_text).2 hq), if_pos ⟨hcount, hseconds⟩]

/-- The bytes before those of the last character are the bytes of the text before it. -/
theorem take_encode_of_splitLast? {init : List Char} (h : splitLast? s = some (init, c)) :
    (Utf8.encode s).take (Utf8.size s - (Utf8.encodeChar c).length) = Utf8.encode init := by
  obtain rfl := splitLast?_eq_some_iff.1 h
  simp [Utf8.encode, Utf8.size]

/-- A text is read exactly if there is, between white space, a number of units that is not negative
and no longer than the longest length; a count beyond 64 bits is longer in every unit. Cutting off
the bytes of the last character leaves the text before it, however many they are. -/
theorem length?_exact (s : List Char) :
    (∀ d, length? s = some d ↔ ∃ q : Quantity, Framed q.text s ∧ 0 ≤ q.count ∧
      q.seconds ≤ 9223372036854775 ∧ d = .ofSeconds q.seconds) ∧
    ∀ init c, splitLast? (trim s) = some (init, c) →
      (Utf8.encode (trim s)).take (Utf8.size (trim s) - (Utf8.encodeChar c).length) =
        Utf8.encode init :=
  ⟨fun _ => length?_eq_some_iff, fun _ _ => take_encode_of_splitLast?⟩

theorem zero_le_of_length? (h : length? s = some d) : 0 ≤ d.nanos := by
  obtain ⟨q, -, hcount, -, rfl⟩ := length?_eq_some_iff.1 h
  exact Int.mul_nonneg (Int.mul_nonneg hcount (Int.natCast_nonneg _)) (by decide)

theorem ofSeconds_eq_zero_iff {n : Int} : Span.ofSeconds n = .zero ↔ n = 0 := by
  rw [Span.ofSeconds, Span.zero, Span.mk.injEq]
  omega

theorem maxBan_lt_iff {n : Int} : maxBan < Span.ofSeconds n ↔ 1825 * 86400 < n := by
  change 86400 * 1825 * 1000000000 < n * 1000000000 ↔ _
  omega

/-- No unit is the last character of a text that is permanent by itself. -/
theorem ne_of_unit {k : Nat} (h : unitSeconds? c = some k) : c ≠ '0' ∧ asciiLower c ≠ 't' := by
  unfold unitSeconds? at h
  split at h
  case h_8 => cases h
  all_goals decide

theorem Quantity.text_ne (q : Quantity) :
    ¬ (q.text = ['0'] ∨ q.text.map asciiLower = "permanent".toList) := by
  obtain ⟨hzero, hpermanent⟩ := ne_of_unit q.isUnit
  rintro (h | h)
  · exact hzero (List.singleton_inj.1 (List.append_inj' (h.trans (List.nil_append _).symm) rfl).2)
  · have hword : "permanent".toList = "permanen".toList ++ ['t'] := rfl
    rw [text, List.map_append, hword] at h
    exact hpermanent (List.singleton_inj.1 (List.append_inj' h rfl).2)

/-- A number of units as the length of a ban. -/
theorem banLength?_quantity (q : Quantity) (hcount : 0 ≤ q.count) :
    banLength? q.text =
      if 9223372036854775 < q.seconds then none
      else if q.seconds = 0 ∨ 1825 * 86400 < q.seconds then some .permanent
      else some (.until (.ofSeconds q.seconds)) := by
  have htrim := trim_bare q.isBare_text
  simp only [banLength?, htrim, q.text_ne, if_false, q.length?_of_trim htrim, hcount, true_and]
  by_cases hlong : q.seconds ≤ 9223372036854775
  · rw [if_pos hlong, if_neg (Int.not_lt.2 hlong), Option.map_some]
    simp only [ofSeconds_eq_zero_iff, maxBan_lt_iff]
    split <;> rfl
  · rw [if_neg hlong, if_pos (Int.not_le.1 hlong)]
    rfl

/-- A row of digits and a unit is the length of a permanent ban if the number is zero or makes more
than 1825 days, and else of a ban that ends after so many units. It is no length at all if it is
beyond the longest one. -/
theorem banLength?_of_digits {digits : List Char} {n k : Nat} (hdigits : Spells digits n)
    (hunit : unitSeconds? c = some k) :
    banLength? (digits ++ [c]) =
      if 9223372036854775 < n * k then none
      else if n = 0 ∨ 1825 * 86400 < n * k then some .permanent
      else some (.until (.ofSeconds (n * k))) := by
  have hread := banLength?_quantity ⟨digits, n, c, k, .bare hdigits, hunit⟩ (Int.natCast_nonneg n)
  have hseconds : (n : Int) * k = ((n * k : Nat) : Int) := (Int.natCast_mul n k).symm
  have hzero : n * k = 0 ↔ n = 0 := by
    have hk : k ≠ 0 := Nat.one_le_iff_ne_zero.1 (one_le_of_unit hunit)
    rw [Nat.mul_eq_zero, or_iff_left hk]
  have hlong : 9223372036854775 < (n : Int) * k ↔ 9223372036854775 < n * k := by omega
  have hbeyond : 1825 * 86400 < (n : Int) * k ↔ 1825 * 86400 < n * k := by omega
  have hnothing : (n : Int) * k = 0 ↔ n = 0 := by
    rw [hseconds, Int.natCast_eq_zero, hzero]
  simpa only [Quantity.text, Quantity.seconds, hlong, hbeyond, hnothing] using hread

/-- The largest number of years that is a length at all makes a permanent ban. -/
theorem banLength?_of_digits_longest :
    Spells "292471208".toList 292471208 ∧ unitSeconds? 'y' = some 31536000 ∧
      banLength? "292471208y".toList = some .permanent := by
  have hdigits : Spells "292471208".toList 292471208 := natural?_eq_some_iff.1 (by decide)
  have hunit : unitSeconds? 'y' = some 31536000 := rfl
  have htext : "292471208y".toList = "292471208".toList ++ ['y'] := rfl
  have hread := banLength?_of_digits hdigits hunit
  rw [← htext] at hread
  exact ⟨hdigits, hunit, hread.trans (by decide)⟩

/-- A length beyond the longest one is not permanent, though it is beyond five years. -/
theorem banLength?_beyondLongest :
    Spells "9223372036854776".toList 9223372036854776 ∧ unitSeconds? 's' = some 1 ∧
      1825 * 86400 < 9223372036854776 * 1 ∧ banLength? "9223372036854776s".toList = none := by
  have hdigits : Spells "9223372036854776".toList 9223372036854776 :=
    natural?_eq_some_iff.1 (by decide)
  exact ⟨hdigits, rfl, by decide, by decide +kernel⟩

end Moderation.Settings
