/-!
Tables: finitely many keys, each with one value, kept in the order of the keys. `get?` is the view
through which the operations are described: `get?_insert`, `get?_erase` and `get?_filterMap`.
-/
namespace Moderation

class Key (κ : Type) where
  before : κ → κ → Bool
  irrefl : ∀ a, before a a = false
  trans : ∀ a b c, before a b = true → before b c = true → before a c = true
  total : ∀ a b, before a b = false → before b a = false → a = b

instance : Key Int where
  before a b := decide (a < b)
  irrefl a := by simp
  trans a b c := by simp only [decide_eq_true_eq]; omega
  total a b := by simp only [decide_eq_false_iff_not]; omega

instance : Key String where
  before a b := decide (a < b)
  irrefl a := by simp
  trans a b c := by
    simp only [decide_eq_true_eq]
    exact fun h k => String.lt_trans h k
  total a b := by
    simp only [decide_eq_false_iff_not]
    exact fun h k => String.le_antisymm k h

/-- Keys with values, each key once and in order. -/
structure Table (κ : Type) [Key κ] (α : Type) where
  entries : List (κ × α)
  ordered : entries.Pairwise fun a b => Key.before a.1 b.1 = true

namespace Table
variable {κ α β : Type} [Key κ]

theorem ext_entries {s t : Table κ α} (h : s.entries = t.entries) : s = t := by
  cases s; cases t; cases h; rfl

def empty : Table κ α := ⟨[], .nil⟩

instance : Inhabited (Table κ α) := ⟨empty⟩

def size (t : Table κ α) : Nat := t.entries.length

def isEmpty (t : Table κ α) : Bool := t.entries.isEmpty

def values (t : Table κ α) : List α := t.entries.map (·.2)

def seek [DecidableEq κ] (k : κ) : List (κ × α) → Option α
  | [] => none
  | e :: rest => if e.1 = k then some e.2 else seek k rest

def get? [DecidableEq κ] (t : Table κ α) (k : κ) : Option α := seek k t.entries

def contains [DecidableEq κ] (t : Table κ α) (k : κ) : Bool := (t.get? k).isSome

def insertEntry (k : κ) (v : α) : List (κ × α) → List (κ × α)
  | [] => [(k, v)]
  | e :: rest =>
    if Key.before k e.1 then (k, v) :: e :: rest
    else if Key.before e.1 k then e :: insertEntry k v rest
    else (k, v) :: rest

theorem mem_insertEntry {k : κ} {v : α} {es : List (κ × α)} {x : κ × α}
    (h : x ∈ insertEntry k v es) : x = (k, v) ∨ x ∈ es := by
  induction es with
  | nil => simpa [insertEntry] using h
  | cons e rest ih =>
    unfold insertEntry at h
    split at h
    · simpa using h
    · split at h <;> grind

theorem pairwise_insertEntry {k : κ} {v : α} {es : List (κ × α)}
    (h : es.Pairwise fun a b => Key.before a.1 b.1 = true) :
    (insertEntry k v es).Pairwise fun a b => Key.before a.1 b.1 = true := by
  induction es with
  | nil => simp [insertEntry]
  | cons e rest ih =>
    obtain ⟨hall, hrest⟩ := List.pairwise_cons.1 h
    unfold insertEntry
    split
    next hk =>
      refine List.pairwise_cons.2 ⟨fun x hx => ?_, h⟩
      rcases List.mem_cons.1 hx with rfl | hx
      · exact hk
      · exact Key.trans _ _ _ hk (hall x hx)
    next hk =>
      split
      next he =>
        refine List.pairwise_cons.2 ⟨fun x hx => ?_, ih hrest⟩
        rcases mem_insertEntry hx with rfl | hx
        · exact he
        · exact hall x hx
      next he =>
        have heq : k = e.1 := Key.total _ _ (by simpa using hk) (by simpa using he)
        exact List.pairwise_cons.2 ⟨fun x hx => heq ▸ hall x hx, hrest⟩

def insert (t : Table κ α) (k : κ) (v : α) : Table κ α :=
  ⟨insertEntry k v t.entries, pairwise_insertEntry t.ordered⟩

def erase [DecidableEq κ] (t : Table κ α) (k : κ) : Table κ α :=
  ⟨t.entries.filter (·.1 ≠ k), t.ordered.filter _⟩

theorem pairwise_filterMap (f : α → Option β) {es : List (κ × α)}
    (h : es.Pairwise fun a b => Key.before a.1 b.1 = true) :
    (es.filterMap fun e => (f e.2).map (e.1, ·)).Pairwise
      fun a b => Key.before a.1 b.1 = true := by
  refine List.Pairwise.filterMap _ (fun a b hab x hx y hy => ?_) h
  obtain ⟨_, _, rfl⟩ := Option.map_eq_some_iff.1 hx
  obtain ⟨_, _, rfl⟩ := Option.map_eq_some_iff.1 hy
  exact hab

/-- Changes each value, or takes its key out. -/
def filterMap (t : Table κ α) (f : α → Option β) : Table κ β :=
  ⟨_, pairwise_filterMap f t.ordered⟩

def map (t : Table κ α) (f : α → β) : Table κ β := t.filterMap (some ∘ f)

section Laws
variable [DecidableEq κ]

theorem seek_insertEntry (k : κ) (v : α) (es : List (κ × α)) (x : κ) :
    seek x (insertEntry k v es) = if k = x then some v else seek x es := by
  induction es with
  | nil => rfl
  | cons e rest ih =>
    unfold insertEntry
    split
    next => rfl
    next hk =>
      split
      next he =>
        have hne : k ≠ e.1 := fun h => by simp [h, Key.irrefl] at he
        by_cases h : e.1 = x
        · simp [seek, h, h ▸ hne]
        · simp [seek, h, ih]
      next he =>
        have heq : k = e.1 := Key.total _ _ (by simpa using hk) (by simpa using he)
        by_cases h : e.1 = x <;> simp [seek, heq, h]

omit [Key κ] in
theorem seek_eq_none {es : List (κ × α)} {x : κ} (h : ∀ e ∈ es, e.1 ≠ x) : seek x es = none := by
  induction es with
  | nil => rfl
  | cons e rest ih =>
    simp only [seek, h e (by simp), if_false]
    exact ih fun e he => h e (by simp [he])

omit [Key κ] in
theorem seek_filter (k : κ) (es : List (κ × α)) (x : κ) :
    seek x (es.filter (·.1 ≠ k)) = if k = x then none else seek x es := by
  induction es with
  | nil => simp [seek]
  | cons e rest ih => grind [seek]

theorem seek_filterMap (f : α → Option β) {es : List (κ × α)}
    (h : es.Pairwise fun a b => Key.before a.1 b.1 = true) (x : κ) :
    seek x (es.filterMap fun e => (f e.2).map (e.1, ·)) = (seek x es).bind f := by
  induction es with
  | nil => rfl
  | cons e rest ih =>
    obtain ⟨hall, hrest⟩ := List.pairwise_cons.1 h
    by_cases hx : e.1 = x
    · cases hf : f e.2 with
      | some c => simp [seek, hf, hx]
      | none =>
        simp only [List.filterMap_cons, hf, Option.map_none, seek, hx, if_true, Option.bind_some]
        refine seek_eq_none fun y hy heq => ?_
        obtain ⟨d, hd, hy⟩ := List.mem_filterMap.1 hy
        obtain ⟨_, _, rfl⟩ := Option.map_eq_some_iff.1 hy
        have hbefore := hall d hd
        rw [hx, ← heq, Key.irrefl] at hbefore
        cases hbefore
    · cases hf : f e.2 with
      | some c => simp [seek, hf, hx, ih hrest]
      | none => simp [seek, hf, hx, ih hrest]

theorem get?_empty (k : κ) : (empty : Table κ α).get? k = none := rfl

theorem get?_insert (t : Table κ α) (k x : κ) (v : α) :
    (t.insert k v).get? x = if k = x then some v else t.get? x :=
  seek_insertEntry k v t.entries x

theorem get?_erase (t : Table κ α) (k x : κ) :
    (t.erase k).get? x = if k = x then none else t.get? x :=
  seek_filter k t.entries x

theorem get?_filterMap (t : Table κ α) (f : α → Option β) (x : κ) :
    (t.filterMap f).get? x = (t.get? x).bind f :=
  seek_filterMap f t.ordered x

end Laws

end Table
end Moderation
