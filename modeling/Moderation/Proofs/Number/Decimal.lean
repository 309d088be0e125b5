import Mathlib.Data.List.TakeWhile
import Moderation.Number.Double
import Moderation.Proofs.Text.Numeral
/-!
The texts that read as numbers: digits with an optional point and exponent, or a word for what is no
finite number, and a sign before them or none. A number that is written with two places takes at
most a few hundred characters.
-/
namespace Moderation.Number
open Text

inductive SpellsExponent : List Char → Prop
  | none : SpellsExponent []
  | some {c : Char} {s : List Char} {n : Int} (hc : c = 'e' ∨ c = 'E') (hs : SpellsInteger s n) :
    SpellsExponent (c :: s)

/-- Digits with or without a point before, among or behind them, and an exponent. -/
inductive SpellsDecimal : List Char → Prop
  | whole {w x : List Char} (hw : ∀ c ∈ w, isDigit c = true) (hne : w ≠ [])
    (hx : SpellsExponent x) : SpellsDecimal (w ++ x)
  | pointed {w p x : List Char} (hw : ∀ c ∈ w, isDigit c = true) (hp : ∀ c ∈ p, isDigit c = true)
    (hne : w ≠ [] ∨ p ≠ []) (hx : SpellsExponent x) : SpellsDecimal (w ++ '.' :: (p ++ x))

def SpellsMagnitude (s : List Char) : Prop :=
  SpellsDecimal s ∨ String.ofList (s.map asciiLower) ∈ ["inf", "infinity", "nan"]

inductive SpellsReal : List Char → Prop
  | bare {s : List Char} (hs : SpellsMagnitude s) : SpellsReal s
  | plus {s : List Char} (hs : SpellsMagnitude s) : SpellsReal ('+' :: s)
  | minus {s : List Char} (hs : SpellsMagnitude s) : SpellsReal ('-' :: s)

variable {s s' w p x : List Char} {c : Char} {negative : Bool}

theorem SpellsExponent.head (h : SpellsExponent x) (hx : x = c :: s) :
    isDigit c = false ∧ c ≠ '.' := by
  cases h with
  | none => cases hx
  | some hc hs =>
    obtain ⟨rfl, -⟩ := List.cons.inj hx
    rcases hc with rfl | rfl <;> decide

/-- No text without a sign begins with one. -/
theorem SpellsMagnitude.head (h : SpellsMagnitude x) (hx : x = c :: s) : c ≠ '-' ∧ c ≠ '+' := by
  have hdigit : isDigit c = true → c ≠ '-' ∧ c ≠ '+' := by
    intro hc
    constructor
    · rintro rfl
      exact absurd hc (by decide)
    · rintro rfl
      exact absurd hc (by decide)
  obtain h | h := h
  · cases h with
    | whole hw hne _ =>
      obtain ⟨d, w, rfl⟩ := List.exists_cons_of_ne_nil hne
      obtain ⟨rfl, -⟩ := List.cons.inj hx
      exact hdigit (hw d List.mem_cons_self)
    | @pointed w p x hw hp hne _ =>
      cases w with
      | nil =>
        obtain ⟨rfl, -⟩ := List.cons.inj hx
        decide
      | cons d w =>
        obtain ⟨rfl, -⟩ := List.cons.inj hx
        exact hdigit (hw d List.mem_cons_self)
  · subst hx
    constructor
    · rintro rfl
      simp [← String.toList_inj, asciiLower] at h
    · rintro rfl
      simp [← String.toList_inj, asciiLower] at h

namespace Double

theorem exponent?_isSome : (exponent? s).isSome = true ↔ SpellsExponent s := by
  constructor
  · intro h
    cases s with
    | nil => exact .none
    | cons c s =>
      rw [exponent?] at h
      split at h
      next hc =>
        obtain ⟨n, hn⟩ := Option.isSome_iff_exists.1 h
        exact .some hc (integer?_eq_some_iff.1 hn)
      next => cases h
  · intro h
    cases h with
    | none => rfl
    | some hc hs =>
      rw [exponent?, if_pos hc, integer?_eq_some_iff.2 hs]
      rfl

theorem spanDigits_append (hw : ∀ c ∈ w, isDigit c = true)
    (hx : ∀ c t, x = c :: t → isDigit c = false) : spanDigits (w ++ x) = (w, x) := by
  rw [spanDigits, List.takeWhile_append_of_pos hw, List.dropWhile_append_of_pos hw]
  cases x with
  | nil => simp
  | cons c x => simp [hx c x rfl]

theorem digits_spanDigits (s : List Char) : ∀ c ∈ (spanDigits s).1, isDigit c = true :=
  fun _ hc => List.mem_takeWhile_imp hc

theorem spanDigits_fst_append (s : List Char) : (spanDigits s).1 ++ (spanDigits s).2 = s :=
  List.takeWhile_append_dropWhile

theorem decimal?_of_whole (hs : spanDigits s = (w, x)) (hx : ∀ t, x ≠ '.' :: t) :
    (decimal? negative s).isSome = true ↔ w ≠ [] ∧ SpellsExponent x := by
  rw [← exponent?_isSome]
  unfold decimal?
  simp only [hs]
  by_cases hw : w = [] <;> simp [hw]

theorem decimal?_of_point (hs : spanDigits s = (w, '.' :: s')) (hs' : spanDigits s' = (p, x)) :
    (decimal? negative s).isSome = true ↔ (w ≠ [] ∨ p ≠ []) ∧ SpellsExponent x := by
  rw [← exponent?_isSome]
  unfold decimal?
  simp only [hs, hs']
  by_cases hw : w = [] <;> by_cases hp : p = [] <;> simp [hw, hp]

theorem decimal?_isSome : (decimal? negative s).isSome = true ↔ SpellsDecimal s := by
  constructor
  · intro h
    rcases hs : spanDigits s with ⟨w, r⟩
    have hw : ∀ c ∈ w, isDigit c = true := by simpa [hs] using digits_spanDigits s
    have happ : w ++ r = s := by simpa [hs] using spanDigits_fst_append s
    by_cases hpoint : ∃ t, r = '.' :: t
    · obtain ⟨t, rfl⟩ := hpoint
      rcases ht : spanDigits t with ⟨p, x⟩
      have hp : ∀ c ∈ p, isDigit c = true := by simpa [ht] using digits_spanDigits t
      have happ' : p ++ x = t := by simpa [ht] using spanDigits_fst_append t
      obtain ⟨hne, hx⟩ := (decimal?_of_point hs ht).1 h
      rw [← happ, ← happ']
      exact .pointed hw hp hne hx
    · obtain ⟨hne, hx⟩ := (decimal?_of_whole hs (not_exists.1 hpoint)).1 h
      rw [← happ]
      exact .whole hw hne hx
  · intro h
    cases h with
    | whole hw hne hx =>
      have hspan := spanDigits_append hw fun c t heq => hx.head heq |>.1
      exact (decimal?_of_whole hspan fun t heq => (hx.head heq).2 rfl).2 ⟨hne, hx⟩
    | pointed hw hp hne hx =>
      have hspan := spanDigits_append hp fun c t heq => hx.head heq |>.1
      refine (decimal?_of_point (spanDigits_append hw ?_) hspan).2 ⟨hne, hx⟩
      rintro c t ⟨⟩
      decide

def magnitude? (negative : Bool) (s : List Char) : Option Double :=
  match decimal? negative s with
  | some x => some x
  | none =>
    let word := String.ofList (s.map asciiLower)
    if word = "inf" ∨ word = "infinity" then some (infinity negative)
    else if word = "nan" then some nan
    else none

theorem ofText?_minus (s : List Char) : ofText? ('-' :: s) = magnitude? true s := rfl

theorem ofText?_plus (s : List Char) : ofText? ('+' :: s) = magnitude? false s := rfl

theorem ofText?_bare (hminus : ∀ t, s ≠ '-' :: t) (hplus : ∀ t, s ≠ '+' :: t) :
    ofText? s = magnitude? false s := by
  unfold ofText?
  split
  next sign body hsign =>
    have hbody : sign = false ∧ body = s := by
      split at hsign
      next t => exact absurd rfl (hminus t)
      next t => exact absurd rfl (hplus t)
      next =>
        cases hsign
        exact ⟨rfl, rfl⟩
    obtain ⟨rfl, rfl⟩ := hbody
    rfl

theorem magnitude?_isSome : (magnitude? negative s).isSome = true ↔ SpellsMagnitude s := by
  rw [SpellsMagnitude, ← @decimal?_isSome s negative, magnitude?]
  cases decimal? negative s with
  | some x => simp
  | none =>
    simp only [Option.isSome_none, Bool.false_eq_true, false_or, List.mem_cons, List.not_mem_nil,
      or_false]
    split
    next h => exact iff_of_true rfl (or_assoc.1 (.inl h))
    next h =>
      split
      next hn => exact iff_of_true rfl (.inr (.inr hn))
      next hn =>
        refine iff_of_false nofun ?_
        rintro (hi | hi | hi)
        · exact h (.inl hi)
        · exact h (.inr hi)
        · exact hn hi

/-- Reading accepts exactly the texts of the grammar. -/
theorem ofText?_isSome : (ofText? s).isSome = true ↔ SpellsReal s := by
  constructor
  · intro h
    by_cases hminus : ∃ t, s = '-' :: t
    · obtain ⟨t, rfl⟩ := hminus
      rw [ofText?_minus] at h
      exact .minus (magnitude?_isSome.1 h)
    · by_cases hplus : ∃ t, s = '+' :: t
      · obtain ⟨t, rfl⟩ := hplus
        rw [ofText?_plus] at h
        exact .plus (magnitude?_isSome.1 h)
      · rw [ofText?_bare (not_exists.1 hminus) (not_exists.1 hplus)] at h
        exact .bare (magnitude?_isSome.1 h)
  · intro h
    cases h with
    | bare hs =>
      rw [ofText?_bare (fun t heq => (hs.head heq).1 rfl) fun t heq => (hs.head heq).2 rfl]
      exact magnitude?_isSome.2 hs
    | plus hs =>
      rw [ofText?_plus]
      exact magnitude?_isSome.2 hs
    | minus hs =>
      rw [ofText?_minus]
      exact magnitude?_isSome.2 hs

theorem magnitude_bounds (x : Double) :
    x.magnitude.1 < Nat.pow 2 53 ∧ x.magnitude.2 ≤ 2046 := by
  have hexp : x.exponent < 2048 := Nat.mod_lt _ (by decide)
  have hfrac : x.fraction < 2 ^ 52 := Nat.mod_lt _ (by decide)
  have hpow : Nat.pow 2 52 = 2 ^ 52 := rfl
  have hdouble : Nat.pow 2 53 = 2 ^ 53 := rfl
  unfold magnitude
  rw [hdouble]
  split
  · exact ⟨by dsimp only; omega, Nat.zero_le _⟩
  · rw [hpow]
    exact ⟨by dsimp only; omega, by dsimp only; omega⟩

theorem roundQuotient_le (num den : Nat) : roundQuotient num den ≤ num / den + 1 := by
  unfold roundQuotient
  dsimp only
  split
  · exact Nat.le_refl _
  · exact Nat.le_succ _

/-- Hundred times a number with a significand of fifty-three bits, in decimal digits. -/
theorem roundQuotient_lt {m e k j den : Nat} (hm : m < Nat.pow 2 53) (hden : Nat.pow 2 k = den)
    (he : e + 60 ≤ k + 3 * j) :
    roundQuotient (m * Nat.pow 2 e * 100) den < Nat.pow 10 (j + 1) := by
  subst hden
  have hnum : m * 2 ^ e * 100 < 2 ^ k * 8 ^ j :=
    calc
      m * 2 ^ e * 100 < 2 ^ 53 * 2 ^ e * 2 ^ 7 :=
        Nat.mul_lt_mul'' (Nat.mul_lt_mul_of_pos_right hm (Nat.pow_pos Nat.zero_lt_two)) (by decide)
      _ = 2 ^ (e + 60) := by rw [← Nat.pow_add, ← Nat.pow_add]; congr 1; omega
      _ ≤ 2 ^ (k + 3 * j) := Nat.pow_le_pow_right Nat.zero_lt_two he
      _ = 2 ^ k * 8 ^ j := by rw [Nat.pow_add, Nat.pow_mul]
  have hdiv : m * 2 ^ e * 100 / 2 ^ k < 8 ^ j := Nat.div_lt_of_lt_mul hnum
  calc
    roundQuotient (m * Nat.pow 2 e * 100) (2 ^ k)
      ≤ m * 2 ^ e * 100 / 2 ^ k + 1 := roundQuotient_le _ _
    _ ≤ 8 ^ j := hdiv
    _ ≤ 10 ^ j := Nat.pow_le_pow_left (by decide) j
    _ < 10 ^ (j + 1) := Nat.pow_lt_pow_right (by decide) (Nat.lt_succ_self j)

/-- Up to `j + 1` digits, and four more characters for the sign, the point and the places. -/
theorem length_places {m e k j den : Nat} (negative : Bool) (hm : m < Nat.pow 2 53)
    (hden : Nat.pow 2 k = den) (he : e + 60 ≤ k + 3 * j) :
    let cents := roundQuotient (m * Nat.pow 2 e * 100) den
    ((if negative then ['-'] else []) ++ digits (cents / 100) ++
      '.' :: padded 2 (cents % 100)).length ≤ j + 5 := by
  intro cents
  have hcents : cents / 100 < Nat.pow 10 (j + 1) :=
    Nat.lt_of_le_of_lt (Nat.div_le_self ..) (roundQuotient_lt hm hden he)
  have hwhole : (digits (cents / 100)).length ≤ j + 1 := length_digits_le hcents
  have hplaces : (padded 2 (cents % 100)).length = 2 := length_padded (Nat.mod_lt _ (by decide))
  have hsign : (if negative then ['-'] else []).length ≤ 1 := by
    cases negative <;> decide
  simp only [List.length_append, List.length_cons]
  omega

/-- The largest numbers have a little more than three hundred digits before the point. -/
theorem length_twoPlaces_le (x : Double) : x.twoPlaces.length ≤ 349 := by
  obtain ⟨hm, he⟩ := magnitude_bounds x
  unfold twoPlaces
  generalize hden : Nat.pow 2 1074 = den
  have hreach : x.magnitude.2 + 60 ≤ 1074 + 3 * 344 := Nat.add_le_add_right he 60
  exact length_places x.isNegative hm hden hreach

end Double
end Moderation.Number
