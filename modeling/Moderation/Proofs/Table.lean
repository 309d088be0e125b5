import Mathlib.Data.List.Sort
import Moderation.Number.Range
import Moderation.Table
/-!
Tables as collections: what `insert` and `erase` do to the entries up to their order, and the
number of items in a table of lists.
-/
namespace Moderation.Table
variable {κ α : Type} [Key κ] [DecidableEq κ]

omit [DecidableEq κ] in
theorem ne_of_before {a b : κ} (h : Key.before a b = true) : a ≠ b := by
  intro heq
  rw [heq, Key.irrefl] at h
  cases h

/-- Behind the first entry of a list in order its key does not occur again. -/
theorem filter_ne_head {e : κ × α} {rest : List (κ × α)}
    (h : ∀ x ∈ rest, Key.before e.1 x.1 = true) : rest.filter (·.1 ≠ e.1) = rest := by
  refine List.filter_eq_self.2 fun x hx => ?_
  have hne := ne_of_before (h x hx)
  simpa using hne.symm

theorem perm_insertEntry (k : κ) (v : α) {es : List (κ × α)}
    (h : es.Pairwise fun a b => Key.before a.1 b.1 = true) :
    (insertEntry k v es).Perm ((k, v) :: es.filter (·.1 ≠ k)) := by
  induction es with
  | nil => exact List.Perm.refl _
  | cons e rest ih =>
    obtain ⟨hall, hrest⟩ := List.pairwise_cons.1 h
    unfold insertEntry
    split
    next hk =>
      have hall' : ∀ x ∈ e :: rest, Key.before k x.1 = true := by
        intro x hx
        obtain rfl | hx := List.mem_cons.1 hx
        · exact hk
        · exact Key.trans _ _ _ hk (hall x hx)
      rw [filter_ne_head (e := (k, v)) hall']
    next hk =>
      split
      next he =>
        have hne := ne_of_before he
        rw [List.filter_cons_of_pos (by simpa using hne)]
        exact ((ih hrest).cons e).trans (List.Perm.swap _ _ _)
      next he =>
        have heq : k = e.1 := Key.total _ _ (by simpa using hk) (by simpa using he)
        subst heq
        rw [List.filter_cons_of_neg (by simp), filter_ne_head hall]

theorem perm_of_seek {k : κ} {v : α} {es : List (κ × α)}
    (h : es.Pairwise fun a b => Key.before a.1 b.1 = true) (hs : seek k es = some v) :
    es.Perm ((k, v) :: es.filter (·.1 ≠ k)) := by
  induction es with
  | nil => cases hs
  | cons e rest ih =>
    obtain ⟨hall, hrest⟩ := List.pairwise_cons.1 h
    by_cases hk : e.1 = k
    · subst hk
      have hv : e.2 = v := by simpa [seek] using hs
      subst hv
      rw [List.filter_cons_of_neg (by simp), filter_ne_head hall]
    · have hs' : seek k rest = some v := by simpa [seek, hk] using hs
      rw [List.filter_cons_of_pos (by simpa using hk)]
      exact ((ih hrest hs').cons e).trans (List.Perm.swap _ _ _)

theorem perm_insert (t : Table κ α) (k : κ) (v : α) :
    (t.insert k v).entries.Perm ((k, v) :: (t.erase k).entries) :=
  perm_insertEntry k v t.ordered

theorem perm_erase {t : Table κ α} {k : κ} {v : α} (h : t.get? k = some v) :
    t.entries.Perm ((k, v) :: (t.erase k).entries) :=
  perm_of_seek t.ordered h

theorem seek_of_mem {k : κ} {v : α} {es : List (κ × α)}
    (h : es.Pairwise fun a b => Key.before a.1 b.1 = true) (hmem : (k, v) ∈ es) :
    seek k es = some v := by
  induction es with
  | nil => cases hmem
  | cons e rest ih =>
    obtain ⟨hall, hrest⟩ := List.pairwise_cons.1 h
    obtain rfl | hmem := List.mem_cons.1 hmem
    · simp [seek]
    · have hne : e.1 ≠ k := ne_of_before (hall (k, v) hmem)
      simp [seek, hne, ih hrest hmem]

theorem mem_entries_iff {t : Table κ α} {k : κ} {v : α} :
    (k, v) ∈ t.entries ↔ t.get? k = some v :=
  ⟨seek_of_mem t.ordered, fun h => (perm_of_seek t.ordered h).mem_iff.2 (List.mem_cons_self ..)⟩

/-- The entries of a table with finitely many possible keys, in the order of the keys. -/
theorem entries_eq_filterMap (t : Table κ α) {ks : List κ}
    (hord : ks.Pairwise fun a b => Key.before a b = true) (hall : ∀ k, k ∈ ks) :
    t.entries = ks.filterMap fun k => (t.get? k).map (k, ·) := by
  have hirrefl : Std.Irrefl fun a b : κ × α => Key.before a.1 b.1 = true :=
    ⟨fun a h => ne_of_before h rfl⟩
  have hantisymm : Std.Antisymm fun a b : κ × α => Key.before a.1 b.1 = true :=
    ⟨fun a b hab hba => absurd rfl (ne_of_before (Key.trans _ _ _ hab hba))⟩
  refine t.ordered.eq_of_mem_iff ?_ ?_
  · refine hord.filterMap _ fun a b hab x hx y hy => ?_
    obtain ⟨_, _, rfl⟩ := Option.map_eq_some_iff.1 hx
    obtain ⟨_, _, rfl⟩ := Option.map_eq_some_iff.1 hy
    exact hab
  · rintro ⟨k, v⟩
    rw [mem_entries_iff, List.mem_filterMap]
    constructor
    · intro h
      exact ⟨k, hall k, by rw [h]; rfl⟩
    · rintro ⟨k', -, h⟩
      obtain ⟨v', hv', heq⟩ := Option.map_eq_some_iff.1 h
      cases heq
      exact hv'

omit [Key κ] in
theorem ne_of_seek_eq_none {k : κ} {es : List (κ × α)} (h : seek k es = none) :
    ∀ e ∈ es, e.1 ≠ k := by
  induction es with
  | nil => simp
  | cons e rest ih =>
    by_cases hk : e.1 = k
    · simp [seek, hk] at h
    · intro x hx
      obtain rfl | hx := List.mem_cons.1 hx
      · exact hk
      · exact ih (by simpa [seek, hk] using h) x hx

theorem erase_eq_self {t : Table κ α} {k : κ} (h : t.get? k = none) : t.erase k = t := by
  refine ext_entries (List.filter_eq_self.2 fun e he => ?_)
  simpa using ne_of_seek_eq_none h e he

theorem seek_of_all_before {e : κ × α} {rest : List (κ × α)}
    (h : ∀ x ∈ rest, Key.before e.1 x.1 = true) : seek e.1 rest = none :=
  seek_eq_none fun x hx => (ne_of_before (h x hx)).symm

omit [DecidableEq κ] in
theorem filterMap_filterMap {β γ : Type} (t : Table κ α) (f : α → Option β) (g : β → Option γ) :
    (t.filterMap f).filterMap g = t.filterMap fun v => (f v).bind g := by
  refine ext_entries ?_
  simp only [filterMap, List.filterMap_filterMap]
  refine List.filterMap_congr fun e _ => ?_
  cases f e.2 <;> rfl

/-- A table of lists that groups the items of one list by their keys has as many of them. -/
theorem total_length_entries {es : List (κ × List α)} {items : List (κ × α)}
    (hord : es.Pairwise fun a b => Key.before a.1 b.1 = true)
    (h : ∀ k, (seek k es).getD [] = (items.filter (·.1 = k)).map (·.2)) :
    Number.total (es.map (·.2.length)) = items.length := by
  induction es generalizing items with
  | nil =>
    cases items with
    | nil => rfl
    | cons x xs =>
      have hx := h x.1
      simp [seek] at hx
  | cons e rest ih =>
    obtain ⟨hall, hrest⟩ := List.pairwise_cons.1 hord
    have hown : e.2 = (items.filter (·.1 = e.1)).map (·.2) := by
      rw [← h e.1]
      simp [seek]
    have hothers : ∀ k, (seek k rest).getD [] =
        ((items.filter (·.1 ≠ e.1)).filter (·.1 = k)).map (·.2) := by
      intro k
      rw [List.filter_filter]
      by_cases hk : e.1 = k
      · subst hk
        rw [seek_of_all_before hall]
        simp
      · have hseek : seek k (e :: rest) = seek k rest := by simp [seek, hk]
        rw [← hseek, h k]
        congr 1
        refine List.filter_congr fun x _ => ?_
        by_cases hx : x.1 = k
        · simp [hx, Ne.symm hk]
        · simp [hx]
    have hsplit := List.length_eq_length_filter_add (l := items) fun x => decide (x.1 = e.1)
    have hlen : e.2.length = (items.filter (·.1 = e.1)).length := by rw [hown, List.length_map]
    rw [List.map_cons, Number.total_cons, ih hrest hothers, hlen, hsplit]
    simp

end Moderation.Table
