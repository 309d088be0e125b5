import Moderation.Proofs.Warning.Words
/-!
Which filter finds what in a message: the first record that is enabled and whose pattern matches, or
whose words follow each other in the message. Records that can find nothing make no difference.
-/
namespace Moderation.Warning
open Text
variable {message : String} {r : FilterRecord}

/-- What an enabled record finds in a message: the match of its pattern, or its words where they
follow each other among those of the message. -/
inductive Finds (message : String) (r : FilterRecord) : String → Prop
  | pattern (henabled : r.isEnabled = true) (hregex : r.isRegex = true) {p : Pattern}
    (hp : Pattern.ofText? r.pattern = some p) {m : String} (hm : p.find? message = some m) :
    Finds message r m
  | words (henabled : r.isEnabled = true) (hplain : r.isRegex = false)
    {ws all : List (List Char)} (hws : HasWords r.pattern ws) (hne : ws ≠ [])
    (hall : HasWords message all) (hrun : ws <:+: all) :
    Finds message r (" ".intercalate (ws.map String.ofList))

/-- A record that is disabled, or has a pattern that cannot be read, or no words. -/
def IsIdle (r : FilterRecord) : Prop :=
  r.isEnabled = false ∨ (r.isRegex = true ∧ Pattern.ofText? r.pattern = none) ∨
    r.isRegex = false ∧ HasWords r.pattern []

def matched? (message : String) (r : FilterRecord) : Option String :=
  if r.isEnabled then (Matcher.ofRecord? r).bind (·.find? message (words message)) else none

theorem find?_filtersOf (rs : List FilterRecord) (message : String) :
    find? (filtersOf rs) message =
      rs.findSome? fun r => (matched? message r).map (⟨r.id, r.pattern, ·⟩) := by
  rw [find?, filtersOf, ← List.head?_filterMap, List.filterMap_filterMap, List.head?_filterMap]
  congr 1
  funext r
  unfold Filter.ofRecord? matched?
  split
  · cases Matcher.ofRecord? r <;> rfl
  · rfl

theorem matched?_of_disabled (h : r.isEnabled = false) : matched? message r = none := by
  rw [matched?, h, if_neg Bool.false_ne_true]

theorem matched?_pattern (henabled : r.isEnabled = true) (hregex : r.isRegex = true) :
    matched? message r = (Pattern.ofText? r.pattern).bind (·.find? message) := by
  rw [matched?, if_pos henabled, Matcher.ofRecord?, if_pos hregex]
  cases Pattern.ofText? r.pattern <;> rfl

theorem matched?_words (henabled : r.isEnabled = true) (hplain : r.isRegex = false) :
    matched? message r =
      if words r.pattern ≠ [] ∧ words r.pattern <:+: words message then
        some (" ".intercalate ((words r.pattern).map String.ofList))
      else none := by
  rw [matched?, if_pos henabled, Matcher.ofRecord?, hplain, if_neg Bool.false_ne_true]
  by_cases hne : words r.pattern = []
  · simp [hne]
  · by_cases hrun : words r.pattern <:+: words message <;>
      simp [hne, hrun, Matcher.find?, occursIn_iff]

/-- The filter of a record matches what the record finds. -/
theorem matched?_eq_some_iff {m : String} : matched? message r = some m ↔ Finds message r m := by
  cases henabled : r.isEnabled with
  | false =>
    rw [matched?_of_disabled henabled]
    refine ⟨nofun, fun h => ?_⟩
    cases h <;> simp_all
  | true =>
    cases hkind : r.isRegex with
    | true =>
      rw [matched?_pattern henabled hkind, Option.bind_eq_some_iff]
      refine ⟨fun ⟨p, hp, hm⟩ => .pattern henabled hkind hp hm, fun h => ?_⟩
      cases h with
      | pattern _ _ hp hm => exact ⟨_, hp, hm⟩
      | words _ hplain => simp [hkind] at hplain
    | false =>
      rw [matched?_words henabled hkind]
      constructor
      · intro h
        split at h
        next hfound =>
          cases h
          exact .words henabled hkind (hasWords_iff.2 rfl) hfound.1 (hasWords_iff.2 rfl) hfound.2
        next => cases h
      · intro h
        cases h with
        | pattern _ hregex => simp [hkind] at hregex
        | words _ _ hws hne hall hrun =>
          rw [hasWords_iff] at hws hall
          rw [hws, hall, if_pos ⟨hne, hrun⟩]

theorem matched?_eq_none_iff : matched? message r = none ↔ ∀ m, ¬ Finds message r m := by
  simp only [Option.eq_none_iff_forall_ne_some, ne_eq, matched?_eq_some_iff]

theorem matched?_of_isIdle (h : IsIdle r) (message : String) : matched? message r = none := by
  cases henabled : r.isEnabled with
  | false => exact matched?_of_disabled henabled
  | true =>
    obtain hdisabled | ⟨hregex, hp⟩ | ⟨hplain, hws⟩ := h
    · exact matched?_of_disabled hdisabled
    · rw [matched?_pattern henabled hregex, hp, Option.bind_none]
    · rw [matched?_words henabled hplain, hasWords_iff.1 hws, if_neg (by simp)]

/-- In every message the filters of every list of records find what its first record that finds
anything finds, and nothing if there is none. An idle record makes no difference anywhere. -/
theorem find?_first (rs : List FilterRecord) (message : String) :
    (∀ found, find? (filtersOf rs) message = some found ↔
      ∃ before r after, rs = before ++ r :: after ∧ Finds message r found.matched ∧
        found.filterId = r.id ∧ found.pattern = r.pattern ∧
        ∀ q ∈ before, ∀ m, ¬ Finds message q m) ∧
    (find? (filtersOf rs) message = none ↔ ∀ r ∈ rs, ∀ m, ¬ Finds message r m) ∧
    ∀ before r after, rs = before ++ r :: after → IsIdle r →
      find? (filtersOf rs) message = find? (filtersOf (before ++ after)) message := by
  refine ⟨fun found => ?_, ?_, ?_⟩
  · rw [find?_filtersOf, List.findSome?_eq_some_iff]
    simp only [Option.map_eq_some_iff, Option.map_eq_none_iff, matched?_eq_none_iff,
      matched?_eq_some_iff]
    constructor
    · rintro ⟨before, r, after, hrs, ⟨m, hm, rfl⟩, hbefore⟩
      exact ⟨before, r, after, hrs, hm, rfl, rfl, hbefore⟩
    · rintro ⟨before, r, after, hrs, hm, hid, hpattern, hbefore⟩
      exact ⟨before, r, after, hrs, ⟨found.matched, hm, by rw [← hid, ← hpattern]⟩, hbefore⟩
  · rw [find?_filtersOf, List.findSome?_eq_none_iff]
    simp only [Option.map_eq_none_iff, matched?_eq_none_iff]
  · rintro before r after rfl hidle
    simp only [find?_filtersOf, List.findSome?_append, List.findSome?_cons,
      matched?_of_isIdle hidle, Option.map_none]

/-- The three records before the one that finds something are idle, each for its own reason. -/
theorem find?_first_phrase :
    find? (filtersOf [⟨1, "such", false, false, 0⟩, ⟨2, "!!", false, true, 0⟩,
      ⟨3, "(unclosed", true, true, 0⟩, ⟨4, "bad  word", false, true, 0⟩,
      ⟨5, "b[a4]d", true, true, 0⟩]) "such a BAD, word here" =
        some ⟨4, "bad  word", "bad word"⟩ := by
  have hwords : HasWords "bad  word" ["bad".toList, "word".toList] := hasWords_iff.2 rfl
  have hall : HasWords "such a BAD, word here"
      ["such".toList, "a".toList, "bad".toList, "word".toList, "here".toList] :=
    hasWords_iff.2 (by decide +kernel)
  have hrun : ["bad".toList, "word".toList] <:+:
      ["such".toList, "a".toList, "bad".toList, "word".toList, "here".toList] :=
    ⟨["such".toList, "a".toList], ["here".toList], rfl⟩
  have hfinds := Finds.words (r := ⟨4, "bad  word", false, true, 0⟩) rfl rfl hwords
    (List.cons_ne_nil _ _) hall hrun
  refine ((find?_first _ _).1 _).2 ⟨[_, _, _], _, _, rfl, hfinds, rfl, rfl, ?_⟩
  simp only [List.forall_mem_cons, ← matched?_eq_none_iff]
  exact ⟨matched?_of_isIdle (.inl rfl) _,
    matched?_of_isIdle (.inr (.inr ⟨rfl, hasWords_iff.2 rfl⟩)) _,
    matched?_of_isIdle (.inr (.inl ⟨rfl, rfl⟩)) _, List.forall_mem_nil _⟩

end Moderation.Warning
