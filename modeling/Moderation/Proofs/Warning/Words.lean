import Mathlib.Data.List.Infix
import Moderation.Warning.Filter
/-!
The words of a text: its longest runs of letters and digits. A text has one list of words, and what
is neither letter nor digit keeps the words of the texts around it apart.
-/
namespace Moderation.Warning
open Text
variable {s t gap w : List Char} {ws : List (List Char)}

/-- A text as its longest runs of letters and digits, with other characters between them. -/
inductive Splits : List Char → List (List Char) → Prop
  | blank {gap : List Char} (hgap : ∀ c ∈ gap, isAlphanumeric c = false) : Splits gap []
  | word {gap w s : List Char} {ws : List (List Char)}
    (hgap : ∀ c ∈ gap, isAlphanumeric c = false) (hne : w ≠ [])
    (hword : ∀ c ∈ w, isAlphanumeric c = true)
    (hend : ∀ c, s.head? = some c → isAlphanumeric c = false) (hrest : Splits s ws) :
    Splits (gap ++ w ++ s) (w :: ws)

def HasWords (text : String) (ws : List (List Char)) : Prop := Splits (lower text.toList) ws

theorem Splits.cons {c : Char} (hc : isAlphanumeric c = false) (h : Splits s ws) :
    Splits (c :: s) ws := by
  cases h with
  | blank hgap => exact .blank (List.forall_mem_cons.2 ⟨hc, hgap⟩)
  | word hgap hne hword hend hrest =>
    have hmore := Splits.word (List.forall_mem_cons.2 ⟨hc, hgap⟩) hne hword hend hrest
    exact hmore

theorem Splits.first (hne : w ≠ []) (hword : ∀ c ∈ w, isAlphanumeric c = true)
    (hend : ∀ c, s.head? = some c → isAlphanumeric c = false) (hrest : Splits s ws) :
    Splits (w ++ s) (w :: ws) := .word (List.forall_mem_nil _) hne hword hend hrest

/-- The first word is what stands at the end of the run under way. -/
theorem splits_runs {word : List Char} (hword : ∀ c ∈ word, isAlphanumeric c = true)
    (s : List Char) : Splits (word.reverse ++ s) (runs word s) := by
  induction s generalizing word with
  | nil =>
    rw [runs]
    split
    next hw => simpa [List.isEmpty_iff.1 hw] using Splits.blank (List.forall_mem_nil _)
    next hw =>
      exact .first (by simpa using hw) (by simpa using hword) (by simp)
        (.blank (List.forall_mem_nil _))
  | cons c s ih =>
    rw [runs]
    split
    next hc =>
      have hmore := ih (List.forall_mem_cons.2 ⟨hc, hword⟩)
      rwa [List.reverse_cons, List.append_assoc, List.singleton_append] at hmore
    next hc =>
      have hrest : Splits (c :: s) (runs [] s) :=
        (ih (List.forall_mem_nil _)).cons (Bool.eq_false_iff.2 hc)
      split
      next hw => simpa [List.isEmpty_iff.1 hw] using hrest
      next hw =>
        refine .first (by simpa using hw) (by simpa using hword) ?_ hrest
        rintro d ⟨⟩
        exact Bool.eq_false_iff.2 hc

theorem runs_gap_append (hgap : ∀ c ∈ gap, isAlphanumeric c = false) (s : List Char) :
    runs [] (gap ++ s) = runs [] s := by
  induction gap with
  | nil => rfl
  | cons c gap ih =>
    obtain ⟨hc, hgap⟩ := List.forall_mem_cons.1 hgap
    simp [runs, hc, ih hgap]

theorem runs_word_append (hw : ∀ c ∈ w, isAlphanumeric c = true) (word s : List Char) :
    runs word (w ++ s) = runs (w.reverse ++ word) s := by
  induction w generalizing word with
  | nil => rfl
  | cons c w ih =>
    obtain ⟨hc, hw⟩ := List.forall_mem_cons.1 hw
    rw [List.cons_append, runs, if_pos hc, ih hw, List.reverse_cons, List.append_assoc,
      List.singleton_append]

theorem runs_of_word (hne : w ≠ []) (hend : ∀ c, s.head? = some c → isAlphanumeric c = false) :
    runs w s = w.reverse :: runs [] s := by
  cases s with
  | nil => simp [runs, hne]
  | cons c s => simp [runs, hend c rfl, hne]

/-- A text has one list of words. -/
theorem splits_iff : Splits s ws ↔ runs [] s = ws := by
  refine ⟨fun h => ?_, fun h => h ▸ splits_runs (List.forall_mem_nil _) s⟩
  induction h with
  | blank hgap => simpa [runs] using runs_gap_append hgap []
  | word hgap hne hword hend hrest ih =>
    rw [List.append_assoc, runs_gap_append hgap, runs_word_append hword, List.append_nil,
      runs_of_word (by simpa using hne) hend, List.reverse_reverse, ih]

theorem runs_self (hne : w ≠ []) (hword : ∀ c ∈ w, isAlphanumeric c = true) :
    runs [] w = [w] := by
  have h := Splits.first (s := []) hne hword (fun _ hc => nomatch hc)
    (.blank (List.forall_mem_nil _))
  rwa [List.append_nil, splits_iff] at h

theorem hasWords_iff {text : String} : HasWords text ws ↔ words text = ws := splits_iff

/-- A word is made of letters and digits of its text. -/
theorem Splits.of_mem (h : Splits s ws) (hw : w ∈ ws) :
    w ≠ [] ∧ ∀ c ∈ w, isAlphanumeric c = true ∧ c ∈ s := by
  induction h with
  | blank hgap => cases hw
  | word hgap hne hword hend hrest ih =>
    obtain rfl | hw := List.mem_cons.1 hw
    · exact ⟨hne, fun c hc => ⟨hword c hc, by simp [hc]⟩⟩
    · obtain ⟨hne, hall⟩ := ih hw
      exact ⟨hne, fun c hc => ⟨(hall c hc).1, by simp [(hall c hc).2]⟩⟩

/-- The words on both sides of a gap are not joined. -/
theorem runs_append_gap (hgap : ∀ c ∈ gap, isAlphanumeric c = false)
    (hne : s = [] ∨ t = [] ∨ gap ≠ []) : runs [] (s ++ (gap ++ t)) = runs [] s ++ runs [] t := by
  cases gap with
  | nil =>
    obtain rfl | rfl | hne := hne
    · rfl
    · simp [runs]
    · exact absurd rfl hne
  | cons c gap =>
    obtain ⟨hc, hgap⟩ := List.forall_mem_cons.1 hgap
    rw [List.cons_append, runs_append_cons hc, runs_gap_append hgap]

theorem occursIn_iff {all : List (List Char)} : occursIn ws all = true ↔ ws <:+: all := by
  induction all with
  | nil => simp [occursIn]
  | cons x xs ih => rw [occursIn, Bool.or_eq_true, List.isPrefixOf_iff_prefix, ih,
      List.infix_cons_iff]

end Moderation.Warning
