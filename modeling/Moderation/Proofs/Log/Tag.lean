import Mathlib.Data.List.TakeWhile
import Moderation.Log.Statement
/-!
The splits of a text that starts with a player's tag. A tag whose fields have no quotes is the first
of them, whatever follows it; in any other split the tag ends at a later `>"`.
-/
namespace Moderation.Log
open Text

theorem upTo?_eq_some_iff {mark : Char} {s a r : List Char} :
    upTo? mark s = some (a, r) ↔ mark ∉ a ∧ s = a ++ mark :: r := by
  constructor
  · intro h
    have hs := List.takeWhile_append_dropWhile (p := (· ≠ mark)) (l := s)
    unfold upTo? at h
    split at h
    next c rest hd =>
      cases h
      have hc := List.head?_dropWhile_not (· ≠ mark) s
      rw [hd] at hc hs
      have hmark : c = mark := by simpa using hc
      subst hmark
      refine ⟨fun hmem => ?_, hs.symm⟩
      simpa using List.mem_takeWhile_imp hmem
    next => cases h
  · rintro ⟨ha, rfl⟩
    have hall : ∀ c ∈ a, decide (c ≠ mark) = true := by
      intro c hc
      simp only [decide_eq_true_eq]
      rintro rfl
      exact ha hc
    have htake : (a ++ mark :: r).takeWhile (· ≠ mark) = a := by
      rw [List.takeWhile_append_of_pos hall]
      simp
    have hdrop : (a ++ mark :: r).dropWhile (· ≠ mark) = mark :: r := by
      rw [List.dropWhile_append_of_pos hall]
      simp
    rw [upTo?, hdrop, htake]

/-- Two splits of a list at the last place of a mark are the same. -/
theorem eq_of_last_mark {α : Type} {mark : α} {a a' b b' : List α} (hb : mark ∉ b) (hb' : mark ∉ b')
    (h : a ++ mark :: b = a' ++ mark :: b') : a = a' ∧ b = b' := by
  rcases List.append_eq_append_iff.1 h with ⟨u, rfl, hu⟩ | ⟨u, rfl, hu⟩
  · cases u with
    | nil => simpa using hu
    | cons c u =>
      simp only [List.cons_append, List.cons.injEq] at hu
      exact absurd (by simp [hu.2]) hb
  · cases u with
    | nil => simpa [eq_comm] using hu
    | cons c u =>
      simp only [List.cons_append, List.cons.injEq] at hu
      exact absurd (by simp [hu.2]) hb'

namespace Tag

/-- What stands between the name and the closing quote. -/
def fieldsText (t : Tag) : List Char :=
  '<' :: t.number ++ '>' :: '<' :: t.steam ++ '>' :: '<' :: t.team ++ ['>']

theorem text_eq (t : Tag) : t.text = '"' :: (t.name ++ t.fieldsText ++ ['"']) := by
  simp [text, fieldsText]

/-- Fields as any split of a text has them. -/
structure Lawful (t : Tag) : Prop where
  name : '\n' ∉ t.name
  number : ∀ c ∈ t.number, isDecimalDigit c = true
  steam : '>' ∉ t.steam
  team : '>' ∉ t.team

structure Plain (t : Tag) : Prop extends Lawful t where
  name_quote : '"' ∉ t.name
  steam_quote : '"' ∉ t.steam
  steam_line : '\n' ∉ t.steam
  team_quote : '"' ∉ t.team
  team_line : '\n' ∉ t.team

theorem not_mem_number {t : Tag} (h : t.Lawful) {c : Char} (hc : isDecimalDigit c = false) :
    c ∉ t.number := by
  intro hmem
  rw [h.number c hmem] at hc
  cases hc

theorem Plain.not_mem {t : Tag} (h : t.Plain) : '"' ∉ t.name ++ t.fieldsText := by
  have hnumber := not_mem_number h.toLawful (c := '"') (by decide)
  simp [fieldsText, hnumber, h.name_quote, h.steam_quote, h.team_quote]

theorem Plain.one_line {t : Tag} (h : t.Plain) : '\n' ∉ t.text := by
  have hnumber := not_mem_number h.toLawful (c := '\n') (by decide)
  simp [text, hnumber, h.name, h.steam_line, h.team_line]

/-- A tag is known from its name and fields written together. -/
theorem eq_of_body {t t' : Tag} (ht : t.Lawful) (ht' : t'.Lawful)
    (h : t.name ++ t.fieldsText = t'.name ++ t'.fieldsText) : t = t' := by
  have hnumber := not_mem_number ht (c := '<') (by decide)
  have hnumber' := not_mem_number ht' (c := '<') (by decide)
  have hteam : t.name ++ '<' :: t.number ++ '>' :: '<' :: t.steam ++ '>' :: '<' :: t.team =
      t'.name ++ '<' :: t'.number ++ '>' :: '<' :: t'.steam ++ '>' :: '<' :: t'.team := by
    refine (List.append_left_inj ['>']).1 ?_
    simpa [fieldsText] using h
  obtain ⟨hsteam, hteam⟩ := eq_of_last_mark (by simp [ht.team]) (by simp [ht'.team]) hteam
  obtain ⟨hname, hsteam⟩ := eq_of_last_mark (by simp [ht.steam]) (by simp [ht'.steam]) hsteam
  obtain ⟨hname, hnumber⟩ := eq_of_last_mark hnumber hnumber' hname
  cases t
  cases t'
  simp_all

theorem count_fieldsText {t : Tag} (h : t.Lawful) : t.fieldsText.count '>' = 3 := by
  have hnumber := not_mem_number h (c := '>') (by decide)
  simp [fieldsText, List.count_eq_zero.2 hnumber, List.count_eq_zero.2 h.steam,
    List.count_eq_zero.2 h.team]

end Tag

theorem fields?_eq_some_iff {name s r : List Char} {t : Tag} :
    fields? name s = some (t, r) ↔ t.name = name ∧ s = t.fieldsText ++ '"' :: r ∧
      (∀ c ∈ t.number, isDecimalDigit c = true) ∧ '>' ∉ t.steam ∧ '>' ∉ t.team := by
  constructor
  · intro h
    simp only [fields?, Option.bind_eq_bind, Option.bind_eq_some_iff] at h
    obtain ⟨s₁, h₁, s₂, h₂, ⟨steam, s₃⟩, h₃, s₄, h₄, ⟨team, s₅⟩, h₅, s₆, h₆, h⟩ := h
    cases h
    obtain ⟨hsteam, rfl⟩ := upTo?_eq_some_iff.1 h₃
    obtain ⟨hteam, rfl⟩ := upTo?_eq_some_iff.1 h₅
    have hs := eq_append_of_dropPrefix? h₁
    have hs₁ := List.takeWhile_append_dropWhile (p := isDecimalDigit) (l := s₁)
    have hdrop : s₁.drop (s₁.takeWhile isDecimalDigit).length = s₁.dropWhile isDecimalDigit := by
      have hleft : (s₁.takeWhile isDecimalDigit ++ s₁.dropWhile isDecimalDigit).drop
          (s₁.takeWhile isDecimalDigit).length = s₁.dropWhile isDecimalDigit := List.drop_left
      rwa [hs₁] at hleft
    rw [hdrop] at h₂
    dsimp only at h₄ h₆
    rw [eq_append_of_dropPrefix? h₂, eq_append_of_dropPrefix? h₄, eq_append_of_dropPrefix? h₆]
      at hs₁
    refine ⟨rfl, ?_, fun c hc => List.mem_takeWhile_imp hc, hsteam, hteam⟩
    rw [hs]
    simpa [Tag.fieldsText] using hs₁.symm
  · rintro ⟨rfl, rfl, hnumber, hsteam, hteam⟩
    have hs : t.fieldsText ++ '"' :: r = '<' :: (t.number ++ '>' :: '<' :: (t.steam ++
        '>' :: '<' :: (t.team ++ '>' :: '"' :: r))) := by simp [Tag.fieldsText]
    have htake : (t.number ++ '>' :: '<' :: (t.steam ++ '>' :: '<' :: (t.team ++
        '>' :: '"' :: r))).takeWhile isDecimalDigit = t.number := by
      rw [List.takeWhile_append_of_pos hnumber, List.takeWhile_cons_of_neg (by decide)]
      exact List.append_nil _
    rw [hs]
    simp only [fields?, dropPrefix?, if_true, Option.bind_eq_bind, Option.bind_some, htake,
      List.drop_left, upTo?_eq_some_iff.2 ⟨hsteam, rfl⟩, upTo?_eq_some_iff.2 ⟨hteam, rfl⟩]
    rfl

/-- The fields after a name start with `<`, so that asking for it first changes nothing. -/
theorem splitsAfter_cons (name : List Char) (c : Char) (s : List Char) :
    splitsAfter name (c :: s) = (fields? name.reverse (c :: s)).toList ++
      if c = '\n' then [] else splitsAfter (c :: name) s := by
  have hhere : (if c = '<' then (fields? name.reverse (c :: s)).toList else []) =
      (fields? name.reverse (c :: s)).toList := by
    by_cases hc : c = '<'
    · rw [if_pos hc]
    · have hnone : fields? name.reverse (c :: s) = none := by
        simp [fields?, dropPrefix?, Ne.symm hc]
      rw [if_neg hc, hnone]
      rfl
  rw [splitsAfter, hhere]
  by_cases hc : c = '\n'
  · rw [if_pos hc, if_pos hc, List.append_nil]
  · rw [if_neg hc, if_neg hc]

theorem mem_splitsAfter {name s r : List Char} {t : Tag} :
    (t, r) ∈ splitsAfter name s ↔
      ∃ x rest, s = x ++ rest ∧ '\n' ∉ x ∧ fields? (name.reverse ++ x) rest = some (t, r) := by
  induction s generalizing name with
  | nil =>
    simp only [splitsAfter, List.not_mem_nil, false_iff]
    rintro ⟨x, rest, heq, -, h⟩
    obtain ⟨rfl, rfl⟩ := List.append_eq_nil_iff.1 heq.symm
    cases h
  | cons c s ih =>
    have hmem : (t, r) ∈ splitsAfter name (c :: s) ↔
        fields? name.reverse (c :: s) = some (t, r) ∨
          c ≠ '\n' ∧ (t, r) ∈ splitsAfter (c :: name) s := by
      rw [splitsAfter_cons, List.mem_append, Option.mem_toList]
      by_cases hc : c = '\n' <;> simp [hc]
    rw [hmem, ih]
    constructor
    · rintro (h | ⟨hc, x, rest, rfl, hx, h⟩)
      · exact ⟨[], c :: s, rfl, by simp, by simpa using h⟩
      · exact ⟨c :: x, rest, rfl, by simp [hx, Ne.symm hc], by simpa using h⟩
    · rintro ⟨x, rest, heq, hx, h⟩
      cases x with
      | nil =>
        left
        rw [show c :: s = rest from heq]
        simpa using h
      | cons d x =>
        obtain ⟨rfl, rfl⟩ := List.cons.inj heq
        simp only [List.mem_cons, not_or] at hx
        exact .inr ⟨Ne.symm hx.1, x, rest, rfl, hx.2, by simpa using h⟩

theorem length_le_of_mem_splitsAfter {name s : List Char} {x : Tag × List Char}
    (h : x ∈ splitsAfter name s) : name.length ≤ x.1.name.length := by
  obtain ⟨u, rest, -, -, hfields⟩ := mem_splitsAfter.1 h
  rw [(fields?_eq_some_iff.1 hfields).1]
  simp

theorem pairwise_splitsAfter (name s : List Char) :
    (splitsAfter name s).Pairwise fun x y => x.1.name.length < y.1.name.length := by
  induction s generalizing name with
  | nil => exact .nil
  | cons c s ih =>
    rw [splitsAfter_cons]
    cases hfields : fields? name.reverse (c :: s) with
    | none =>
      by_cases hc : c = '\n'
      · simp [hc]
      · simpa [hc] using ih (c :: name)
    | some x =>
      have hname : x.1.name.length = name.length := by
        rw [(fields?_eq_some_iff.1 hfields).1, List.length_reverse]
      by_cases hc : c = '\n'
      · simp [hc]
      · rw [if_neg hc]
        refine List.pairwise_cons.2 ⟨fun y hy => ?_, ih (c :: name)⟩
        have hlong := length_le_of_mem_splitsAfter hy
        rw [List.length_cons] at hlong
        omega

/-- The splits of a text are the ways of writing it as a tag and a rest. -/
theorem mem_splits {s r : List Char} {t : Tag} :
    (t, r) ∈ splits s ↔ s = t.text ++ r ∧ t.Lawful := by
  constructor
  · intro h
    unfold splits at h
    split at h
    next s =>
      obtain ⟨x, rest, rfl, hx, h⟩ := mem_splitsAfter.1 h
      obtain ⟨rfl, rfl, hnumber, hsteam, hteam⟩ := fields?_eq_some_iff.1 h
      exact ⟨by simp [t.text_eq], hx, hnumber, hsteam, hteam⟩
    next => cases h
  · rintro ⟨rfl, h⟩
    have hs : t.text ++ r = '"' :: (t.name ++ (t.fieldsText ++ '"' :: r)) := by simp [t.text_eq]
    rw [hs]
    exact mem_splitsAfter.2 ⟨t.name, _, rfl, h.name,
      fields?_eq_some_iff.2 ⟨rfl, rfl, h.number, h.steam, h.team⟩⟩

/-- The splits are listed from the shortest name on. -/
theorem pairwise_splits (s : List Char) :
    (splits s).Pairwise fun x y => x.1.name.length < y.1.name.length := by
  unfold splits
  split
  · exact pairwise_splitsAfter [] _
  · exact .nil

/-- A text goes on as `r'` behind one of its places that read `>"`. -/
def Follows (r r' : List Char) : Prop := ∃ u, r = u ++ '>' :: '"' :: r'

theorem fieldsText_eq_concat (t : Tag) : ∃ s, t.fieldsText = s ++ ['>'] :=
  ⟨'<' :: t.number ++ '>' :: '<' :: t.steam ++ '>' :: '<' :: t.team, by simp [Tag.fieldsText]⟩

theorem name_length_lt {t t' : Tag} {u : List Char} (ht : t.Lawful) (ht' : t'.Lawful)
    (h : t'.name ++ t'.fieldsText = t.name ++ (t.fieldsText ++ '"' :: u ++ ['>'])) :
    t.name.length < t'.name.length := by
  by_contra hlt
  have hdrop : t'.fieldsText.drop (t.name.length - t'.name.length) =
      t.fieldsText ++ '"' :: u ++ ['>'] := by
    have hboth := congrArg (List.drop t.name.length) h
    rw [List.drop_left, List.drop_append, List.drop_eq_nil_of_le (Nat.not_lt.1 hlt)] at hboth
    exact hboth
  -- the fields of a tag have three `>`, and here a fourth would follow
  have hcount := (List.drop_sublist (t.name.length - t'.name.length) t'.fieldsText).count_le '>'
  rw [hdrop, Tag.count_fieldsText ht', List.count_append, List.count_append,
    Tag.count_fieldsText ht] at hcount
  have hone : List.count '>' ['>'] = 1 := rfl
  omega

/-- The first quote of a text, or a later one, is where it reads `>"`. -/
theorem eq_or_exists_of_quote {p r u r' : List Char} (hp : '"' ∉ p)
    (h : p ++ '"' :: r = u ++ '>' :: '"' :: r') :
    (p = u ++ ['>'] ∧ r' = r) ∨ ∃ w, u = p ++ '"' :: w ∧ r = w ++ '>' :: '"' :: r' := by
  have hsplit : p ++ '"' :: r = (u ++ ['>']) ++ '"' :: r' := by simpa using h
  rcases List.append_eq_append_iff.1 hsplit with ⟨x, hx, hr⟩ | ⟨x, hx, hr⟩
  · cases x with
    | nil => exact .inl ⟨by simpa using hx.symm, by simpa using hr.symm⟩
    | cons c x =>
      obtain ⟨rfl, rfl⟩ := List.cons.inj hr
      rcases List.eq_nil_or_concat x with rfl | ⟨w, d, rfl⟩
      · exact absurd (List.append_inj_right' hx rfl) (by decide)
      · have hends : u ++ ['>'] = (p ++ '"' :: w) ++ [d] := by simpa using hx
        obtain ⟨hu, hd⟩ := List.append_inj' hends rfl
        obtain rfl : '>' = d := by simpa using hd
        exact .inr ⟨w, hu, by simp⟩
  · cases x with
    | nil => exact .inl ⟨by simpa using hx, by simpa using hr⟩
    | cons c x =>
      obtain ⟨rfl, -⟩ := List.cons.inj hr
      exact absurd (by simp [hx]) hp

/-- Another split of a text that starts with a plain tag has a longer name. -/
theorem eq_or_follows {t t' : Tag} {r r' : List Char} (ht : t.Plain) (ht' : t'.Lawful)
    (h : t.text ++ r = t'.text ++ r') :
    (t' = t ∧ r' = r) ∨ (t.name.length < t'.name.length ∧ Follows r r') := by
  obtain ⟨s, hs⟩ := fieldsText_eq_concat t'
  have hbody : t.name ++ t.fieldsText ++ '"' :: r = (t'.name ++ s) ++ '>' :: '"' :: r' := by
    simpa [Tag.text_eq, hs] using h
  rcases eq_or_exists_of_quote ht.not_mem hbody with ⟨heq, hr⟩ | ⟨w, hw, hr⟩
  · have hsame : t'.name ++ t'.fieldsText = t.name ++ t.fieldsText := by
      rw [hs, heq, List.append_assoc]
    exact .inl ⟨Tag.eq_of_body ht' ht.toLawful hsame, hr⟩
  · have hlong : t'.name ++ t'.fieldsText = t.name ++ (t.fieldsText ++ '"' :: w ++ ['>']) := by
      rw [hs, ← List.append_assoc, hw]
      simp
    exact .inr ⟨name_length_lt ht.toLawful ht' hlong, w, hr⟩

theorem not_follows {p r : List Char} (hp : '"' ∉ p) : ¬ Follows p r := by
  rintro ⟨u, rfl⟩
  exact hp (by simp)

theorem follows_append_quote {p r r' : List Char} (hp : '"' ∉ p) (h : Follows (p ++ '"' :: r) r') :
    r' = r ∨ Follows r r' := by
  obtain ⟨u, hu⟩ := h
  rcases eq_or_exists_of_quote hp hu with ⟨-, rfl⟩ | ⟨w, -, hw⟩
  · exact .inl rfl
  · exact .inr ⟨w, hw⟩

/-- An opening quote comes after another character than `>`. -/
theorem follows_of_append_quote {p r r' : List Char} (hp : '"' ∉ p) (hend : p.getLast? ≠ some '>')
    (h : Follows (p ++ '"' :: r) r') : Follows r r' := by
  obtain ⟨u, hu⟩ := h
  rcases eq_or_exists_of_quote hp hu with ⟨hp, -⟩ | ⟨w, -, hw⟩
  · exact absurd (by simp [hp]) hend
  · exact ⟨w, hw⟩

/-- The splits of a text that starts with a plain tag: that tag, and others behind it. -/
theorem splits_text_append {t : Tag} (ht : t.Plain) (r : List Char) :
    ∃ later, splits (t.text ++ r) = (t, r) :: later ∧ ∀ x ∈ later, Follows r x.2 := by
  have hsplit : ∀ x ∈ splits (t.text ++ r),
      x = (t, r) ∨ (t.name.length < x.1.name.length ∧ Follows r x.2) := by
    intro x hx
    obtain ⟨heq, hlaw⟩ := mem_splits.1 hx
    rcases eq_or_follows ht hlaw heq with ⟨htag, hrest⟩ | hlater
    · exact .inl (Prod.ext htag hrest)
    · exact .inr hlater
  have hmem : (t, r) ∈ splits (t.text ++ r) := mem_splits.2 ⟨rfl, ht.toLawful⟩
  have hpair := pairwise_splits (t.text ++ r)
  cases hall : splits (t.text ++ r) with
  | nil =>
    rw [hall] at hmem
    cases hmem
  | cons x later =>
    rw [hall] at hmem hpair hsplit
    obtain ⟨hfirst, -⟩ := List.pairwise_cons.1 hpair
    have hx : x = (t, r) := by
      rcases List.mem_cons.1 hmem with heq | hlater
      · exact heq.symm
      · have hshort := hfirst _ hlater
        rcases hsplit x (by simp) with heq | ⟨hlong, -⟩
        · exact heq
        · exact absurd hlong (Nat.lt_asymm hshort)
    subst hx
    refine ⟨later, rfl, fun y hy => ?_⟩
    rcases hsplit y (List.mem_cons_of_mem _ hy) with rfl | ⟨-, hfollows⟩
    · exact absurd (hfirst _ hy) (Nat.lt_irrefl _)
    · exact hfollows

namespace Statement

theorem isOneLine_iff {s : List Char} : isOneLine s = true ↔ '\n' ∉ s := by
  rw [isOneLine, List.all_eq_true]
  constructor
  · intro h hmem
    exact absurd (h '\n' hmem) (by decide)
  · intro h c hc
    simp only [decide_eq_true_eq]
    rintro rfl
    exact h hc

variable {α : Type} {t : Tag} {r : List Char} {next : Tag → List Char → Option α}

theorem tagged?_of_some (ht : t.Plain) {a : α} (h : next t r = some a) :
    tagged? (t.text ++ r) next = some a := by
  obtain ⟨later, hsplits, -⟩ := splits_text_append ht r
  simp only [tagged?, hsplits, List.findSome?_cons, h]

theorem tagged?_of_follows (ht : t.Plain) (h : ∀ t' r', Follows r r' → next t' r' = none) :
    tagged? (t.text ++ r) next = next t r := by
  obtain ⟨later, hsplits, hlater⟩ := splits_text_append ht r
  cases hnext : next t r with
  | some a => exact tagged?_of_some ht hnext
  | none =>
    rw [tagged?, hsplits]
    refine List.findSome?_eq_none_iff.2 fun x hx => ?_
    rcases List.mem_cons.1 hx with rfl | hx
    · exact hnext
    · exact h x.1 x.2 (hlater x hx)

end Statement
end Moderation.Log
