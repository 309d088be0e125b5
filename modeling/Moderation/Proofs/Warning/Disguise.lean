import Moderation.Proofs.Text.Lowercase
import Moderation.Proofs.Warning.Filters
/-!
Neither case nor punctuation nor surrounding text hides the words of a filter. Lower case depends on
the context only at a capital sigma, and a disguised word has none.
-/
namespace Moderation.Warning
open Text
variable {v w t gap : List Char} {ws : List (List Char)}

def IsGap (gap : List Char) : Prop := ∀ c ∈ gap, c.toNat < 128 ∧ isAsciiAlphanumeric c = false

def SameLetters (v w : List Char) : Prop := v.map asciiLower = w.map asciiLower

/-- Words in any case, with gaps between them. -/
inductive Disguises : List (List Char) → List Char → Prop
  | last {v w : List Char} (h : SameLetters v w) : Disguises [w] v
  | cons {v w gap t : List Char} {ws : List (List Char)} (h : SameLetters v w) (hgap : IsGap gap)
    (hne : gap ≠ []) (hrest : Disguises ws t) : Disguises (w :: ws) (v ++ (gap ++ t))

structure IsLowerWord (w : List Char) : Prop where
  ne_nil : w ≠ []
  alphanumeric : ∀ c ∈ w, isAlphanumeric c = true
  isLower : ∀ c ∈ w, IsLower c

theorem HasWords.isLowerWord {text : String} (h : HasWords text ws) : ∀ w ∈ ws, IsLowerWord w := by
  intro w hw
  obtain ⟨hne, hmem⟩ := h.of_mem hw
  exact ⟨hne, fun c hc => (hmem c hc).1, fun c hc => isLower_of_mem_lower (hmem c hc).2⟩

theorem isLower_of_mem_gap (h : IsGap gap) : ∀ c ∈ gap, IsLower c := by
  intro c hc
  obtain ⟨hascii, hother⟩ := h c hc
  refine isLower_of_ascii hascii fun hcapital => ?_
  simp [isAsciiAlphanumeric, hcapital] at hother

/-- A gap separates words. -/
theorem not_alphanumeric_of_mem_gap (h : IsGap gap) : ∀ c ∈ gap, isAlphanumeric c = false := by
  intro c hc
  obtain ⟨hascii, hother⟩ := h c hc
  rw [isAlphanumeric, if_pos hascii, hother]

theorem flatMap_gap (h : IsGap gap) : gap.flatMap lowerChar = gap := by
  have hlower := isLower_of_mem_gap h
  have hself : ∀ c ∈ gap, IsLower (asciiLower c) := by
    intro c hc
    rw [asciiLower_of_isLower (hlower c hc)]
    exact hlower c hc
  rw [flatMap_lowerChar hself, map_asciiLower hlower]

/-- A word in any case is lowered to the word, and no letter of it is lowered by context. -/
theorem SameLetters.lowered (h : SameLetters v w) (hw : IsLowerWord w) :
    v.flatMap lowerChar = w ∧ ∀ c ∈ v, c.toNat ≠ 0x3A3 := by
  have hself : v.map asciiLower = w := h.trans (map_asciiLower hw.isLower)
  have hv : ∀ c ∈ v, IsLower (asciiLower c) :=
    fun c hc => hw.isLower _ (hself ▸ List.mem_map_of_mem hc)
  exact ⟨(flatMap_lowerChar hv).trans hself, fun c hc => (lowerChar_of_asciiLower (hv c hc)).2⟩

theorem Disguises.no_sigma (h : Disguises ws t) (hws : ∀ w ∈ ws, IsLowerWord w) :
    ∀ c ∈ t, c.toNat ≠ 0x3A3 := by
  induction h with
  | last h => exact (h.lowered (hws _ List.mem_cons_self)).2
  | cons h hgap hne hrest ih =>
    obtain ⟨hw, hws⟩ := List.forall_mem_cons.1 hws
    intro c hc
    obtain hc | hc | hc := by simpa only [List.mem_append] using hc
    · exact (h.lowered hw).2 c hc
    · exact ne_sigma_of_isLower (isLower_of_mem_gap hgap c hc)
    · exact ih hws c hc

/-- Lowered, a disguise has the words it disguises. -/
theorem Disguises.runs_lowered (h : Disguises ws t) (hws : ∀ w ∈ ws, IsLowerWord w) :
    runs [] (t.flatMap lowerChar) = ws := by
  induction h with
  | last h =>
    have hw := hws _ List.mem_cons_self
    rw [(h.lowered hw).1, runs_self hw.ne_nil hw.alphanumeric]
  | cons h hgap hne hrest ih =>
    obtain ⟨hw, hws⟩ := List.forall_mem_cons.1 hws
    rw [List.flatMap_append, List.flatMap_append, (h.lowered hw).1, flatMap_gap hgap,
      runs_append_gap (not_alphanumeric_of_mem_gap hgap) (.inr (.inr hne)),
      runs_self hw.ne_nil hw.alphanumeric, ih hws, List.singleton_append]

/-- The words of a disguise follow each other in every text that keeps a gap around it. -/
theorem Disguises.infix_words {s₀ s₁ : List Char} (h : Disguises ws t) (hws : ∀ w ∈ ws, IsLowerWord w)
    (h₀ : IsGap s₀) (h₁ : IsGap s₁) {a b : String} (ha : a = "" ∨ s₀ ≠ []) (hb : b = "" ∨ s₁ ≠ []) :
    ws <:+: words (a ++ String.ofList (s₀ ++ (t ++ s₁)) ++ b) := by
  have hsigma : ∀ c ∈ s₀ ++ (t ++ s₁), c.toNat ≠ 0x3A3 := by
    intro c hc
    obtain hc | hc | hc := by simpa only [List.mem_append] using hc
    · exact ne_sigma_of_isLower (isLower_of_mem_gap h₀ c hc)
    · exact h.no_sigma hws c hc
    · exact ne_sigma_of_isLower (isLower_of_mem_gap h₁ c hc)
  -- a sigma of `a` may depend on what follows, so that `x` is only known to be empty with `a`
  obtain ⟨x, y, hlower, hx, hy⟩ := exists_lower_between hsigma a.toList b.toList
  have hleft : x = [] ∨ t.flatMap lowerChar ++ (s₁ ++ y) = [] ∨ s₀ ≠ [] :=
    ha.elim (fun ha => .inl (hx (by rw [ha]; rfl))) fun hne => .inr (.inr hne)
  have hright : t.flatMap lowerChar = [] ∨ y = [] ∨ s₁ ≠ [] :=
    hb.elim (fun hb => .inr (.inl (hy (by rw [hb]; rfl)))) fun hne => .inr (.inr hne)
  refine ⟨runs [] x, runs [] y, ?_⟩
  calc
    runs [] x ++ ws ++ runs [] y
        = runs [] x ++ (runs [] (t.flatMap lowerChar) ++ runs [] y) := by
          rw [h.runs_lowered hws, List.append_assoc]
    _ = runs [] x ++ runs [] (t.flatMap lowerChar ++ (s₁ ++ y)) := by
          rw [runs_append_gap (not_alphanumeric_of_mem_gap h₁) hright]
    _ = runs [] (x ++ (s₀ ++ (t.flatMap lowerChar ++ (s₁ ++ y)))) := by
          rw [runs_append_gap (not_alphanumeric_of_mem_gap h₀) hleft]
    _ = words (a ++ String.ofList (s₀ ++ (t ++ s₁)) ++ b) := by
          rw [words, String.toList_append, String.toList_append, String.toList_ofList,
            List.append_assoc, hlower, List.flatMap_append, List.flatMap_append, flatMap_gap h₀,
            flatMap_gap h₁, List.append_assoc, List.append_assoc]

/-- An enabled record of words finds them whatever the case of their ASCII letters, the gaps between
them and the text around them, unless a record before it finds something. -/
theorem find?_disguised (before after : List FilterRecord) {r : FilterRecord}
    (henabled : r.isEnabled = true) (hplain : r.isRegex = false) (hws : HasWords r.pattern ws)
    (ht : Disguises ws t) {s₀ s₁ : List Char} (h₀ : IsGap s₀) (h₁ : IsGap s₁) {a b message : String}
    (ha : a = "" ∨ s₀ ≠ []) (hb : b = "" ∨ s₁ ≠ [])
    (hmessage : message = a ++ String.ofList (s₀ ++ (t ++ s₁)) ++ b) :
    ∃ found, find? (filtersOf (before ++ r :: after)) message = some found ∧
      ∃ q ∈ before ++ [r], found.filterId = q.id ∧ found.pattern = q.pattern ∧
        Finds message q found.matched := by
  have hne : ws ≠ [] := by
    cases ht <;> exact List.cons_ne_nil _ _
  have hrun := hmessage ▸ ht.infix_words hws.isLowerWord h₀ h₁ ha hb
  have hfinds := Finds.words henabled hplain hws hne (hasWords_iff.2 rfl) hrun
  rw [find?_filtersOf, List.append_cons, List.findSome?_append]
  cases hfirst : (before ++ [r]).findSome? _ with
  | none =>
    have hnone := List.findSome?_eq_none_iff.1 hfirst r (by simp)
    rw [matched?_eq_some_iff.2 hfinds] at hnone
    cases hnone
  | some found =>
    obtain ⟨q, hq, hfound⟩ := List.exists_of_findSome?_eq_some hfirst
    obtain ⟨m, hm, rfl⟩ := Option.map_eq_some_iff.1 hfound
    exact ⟨_, rfl, q, hq, rfl, rfl, matched?_eq_some_iff.1 hm⟩

/-- The final sigma before the first word and the letter after the last one make no difference. -/
theorem find?_disguised_shouting :
    ∃ m, find? (filtersOf [⟨4, "bad  word", false, true, 0⟩, ⟨5, ".*", true, true, 0⟩])
      "ΟΔΟΣ!BaD, *WORD.x" = some ⟨4, "bad  word", m⟩ := by
  have hwords : HasWords "bad  word" ["bad".toList, "word".toList] := hasWords_iff.2 rfl
  have ht : Disguises ["bad".toList, "word".toList]
      ("BaD".toList ++ (", *".toList ++ "WORD".toList)) :=
    .cons rfl (by simp [IsGap, isAsciiAlphanumeric]) (List.cons_ne_nil _ _) (.last rfl)
  have h₀ : IsGap ['!'] := by simp [IsGap, isAsciiAlphanumeric]
  have h₁ : IsGap ['.'] := by simp [IsGap, isAsciiAlphanumeric]
  have hmessage : "ΟΔΟΣ!BaD, *WORD.x" = "ΟΔΟΣ" ++
      String.ofList (['!'] ++ (("BaD".toList ++ (", *".toList ++ "WORD".toList)) ++ ['.'])) ++
        "x" := rfl
  obtain ⟨⟨id, pattern, m⟩, hfound, q, hq, rfl, rfl, -⟩ :=
    find?_disguised [] [⟨5, ".*", true, true, 0⟩] (r := ⟨4, "bad  word", false, true, 0⟩) rfl rfl
      hwords ht h₀ h₁ (.inr (List.cons_ne_nil _ _)) (.inr (List.cons_ne_nil _ _)) hmessage
  obtain rfl := List.mem_singleton.1 hq
  exact ⟨m, hfound⟩

end Moderation.Warning
