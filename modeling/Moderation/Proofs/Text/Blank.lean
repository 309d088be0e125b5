import Mathlib.Data.List.TakeWhile
import Moderation.Text.Blank
/-!
Texts between white space. What does not begin or end with white space is found between it, and
nothing else is left of a text.
-/
namespace Moderation.Text

structure IsBare (s : List Char) : Prop where
  first : ∃ c rest, s = c :: rest ∧ isBlank c = false
  last : ∃ init c, s = init ++ [c] ∧ isBlank c = false

theorem dropWhile_append_cons {p : Char → Bool} {s rest : List Char} {c : Char}
    (hs : ∀ x ∈ s, p x = true) (hc : p c = false) :
    (s ++ c :: rest).dropWhile p = c :: rest := by
  rw [List.dropWhile_append_of_pos hs, List.dropWhile_cons_of_neg (by simp [hc])]

/-- What stands between white space is found. -/
theorem trim_of_bare {before s after : List Char} (hs : IsBare s)
    (hbefore : ∀ c ∈ before, isBlank c = true) (hafter : ∀ c ∈ after, isBlank c = true) :
    trim (before ++ s ++ after) = s := by
  have hstart : trimStart (before ++ s ++ after) = s ++ after := by
    obtain ⟨c, rest, rfl, hc⟩ := hs.first
    rw [List.append_assoc]
    exact dropWhile_append_cons hbefore hc
  obtain ⟨init, c, rfl, hc⟩ := hs.last
  have hreverse : (init ++ [c] ++ after).reverse = after.reverse ++ c :: init.reverse := by simp
  rw [trim, hstart, trimEnd, hreverse,
    dropWhile_append_cons (fun x hx => hafter x (List.mem_reverse.1 hx)) hc]
  simp

/-- What is left of a text is bare, and only white space is gone. -/
theorem exists_of_trim {s : List Char} (h : trim s ≠ []) :
    IsBare (trim s) ∧ ∃ before after, s = before ++ trim s ++ after ∧
      (∀ c ∈ before, isBlank c = true) ∧ ∀ c ∈ after, isBlank c = true := by
  have hstart : s = s.takeWhile isBlank ++ trimStart s := (List.takeWhile_append_dropWhile ..).symm
  have hend : trimStart s = trim s ++ ((trimStart s).reverse.takeWhile isBlank).reverse := by
    rw [trim, trimEnd, ← List.reverse_append, List.takeWhile_append_dropWhile, List.reverse_reverse]
  refine ⟨⟨?_, ?_⟩, s.takeWhile isBlank, ((trimStart s).reverse.takeWhile isBlank).reverse, ?_,
    fun c hc => List.mem_takeWhile_imp hc,
    fun c hc => List.mem_takeWhile_imp (List.mem_reverse.1 hc)⟩
  · obtain ⟨c, rest, hc⟩ := List.exists_cons_of_ne_nil h
    refine ⟨c, rest, hc, ?_⟩
    rw [hc, List.cons_append] at hend
    have hhead := List.head?_dropWhile_not isBlank s
    have hrest : s.dropWhile isBlank = trimStart s := rfl
    rw [hrest, hend] at hhead
    simpa using hhead
  · obtain ⟨init, c, hc⟩ : ∃ init c, trim s = init ++ [c] :=
      ⟨_, _, (List.dropLast_concat_getLast h).symm⟩
    refine ⟨init, c, hc, ?_⟩
    have hlast : (trimStart s).reverse.dropWhile isBlank = c :: init.reverse := by
      rw [← List.reverse_inj, List.reverse_cons, List.reverse_reverse]
      exact hc
    have hhead := List.head?_dropWhile_not isBlank (trimStart s).reverse
    rw [hlast] at hhead
    simpa using hhead
  · rw [List.append_assoc, ← hend]
    exact hstart

def Framed (t s : List Char) : Prop :=
  ∃ before after, s = before ++ t ++ after ∧ (∀ c ∈ before, isBlank c = true) ∧
    ∀ c ∈ after, isBlank c = true

theorem trim_eq_iff_framed {s t : List Char} (ht : IsBare t) : trim s = t ↔ Framed t s := by
  constructor
  · rintro rfl
    obtain ⟨c, rest, hc, -⟩ := ht.first
    have hne : trim s ≠ [] := fun hnil => by rw [hnil] at hc; cases hc
    exact (exists_of_trim hne).2
  · rintro ⟨before, after, rfl, hbefore, hafter⟩
    exact trim_of_bare ht hbefore hafter

theorem trim_bare {t : List Char} (ht : IsBare t) : trim t = t :=
  (trim_eq_iff_framed ht).2 ⟨[], [], by simp, List.forall_mem_nil _, List.forall_mem_nil _⟩

end Moderation.Text
