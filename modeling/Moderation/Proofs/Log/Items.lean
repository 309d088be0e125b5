import Mathlib.Data.List.Induction
import Moderation.Proofs.Log.Tag
import Moderation.Proofs.Table
/-!
Property lists at the end of a line. What is written as items is read as these items, in order, and
the attributes have under each key the value of its last item.
-/
namespace Moderation.Log
open Text Number

def itemText (i : String × String) : List Char :=
  ' ' :: '(' :: i.1.toList ++ ' ' :: '"' :: i.2.toList ++ ['"', ')']

def itemsText (items : List (String × String)) : List Char := items.flatMap itemText

structure ReadableItem (i : String × String) : Prop where
  key_ne_nil : i.1.toList ≠ []
  key : ∀ c ∈ i.1.toList, isWordChar c = true
  value : '"' ∉ i.2.toList

structure PlainItem (i : String × String) : Prop extends ReadableItem i where
  value_line : '\n' ∉ i.2.toList

theorem ReadableItem.not_mem_key {i : String × String} (h : ReadableItem i) {c : Char}
    (hc : isWordChar c = false) : c ∉ i.1.toList := by
  intro hmem
  rw [h.key c hmem] at hc
  cases hc

theorem PlainItem.one_line {i : String × String} (h : PlainItem i) : '\n' ∉ itemText i := by
  have hkey := h.not_mem_key (c := '\n') (by decide)
  simp [itemText, hkey, h.value_line]

theorem one_line_itemsText {items : List (String × String)} (h : ∀ i ∈ items, PlainItem i) :
    '\n' ∉ itemsText items := by
  intro hmem
  obtain ⟨i, hi, hline⟩ := List.mem_flatMap.1 hmem
  exact (h i hi).one_line hline

theorem property?_item {i : String × String} (h : ReadableItem i) (r : List Char) :
    property? ('(' :: (i.1.toList ++ ' ' :: '"' :: (i.2.toList ++ '"' :: ')' :: r))) =
      some (i, r) := by
  have hkey : (i.1.toList ++ ' ' :: '"' :: (i.2.toList ++ '"' :: ')' :: r)).takeWhile isWordChar =
      i.1.toList := by
    rw [List.takeWhile_append_of_pos h.key, List.takeWhile_cons_of_neg (by decide)]
    exact List.append_nil _
  have hvalue : quoted? (i.2.toList ++ '"' :: ')' :: r) = some (i.2.toList, ')' :: r) :=
    upTo?_eq_some_iff.2 ⟨h.value, rfl⟩
  have hne : i.1.toList.isEmpty = false := by simpa using h.key_ne_nil
  simp only [property?, dropPrefix?, if_true, Option.bind_eq_bind, Option.bind_some, hkey, hne,
    List.drop_left, hvalue]
  simp

theorem properties_of_some {s r : List Char} {i : String × String} (h : property? s = some (i, r)) :
    properties s = i :: properties r := by
  cases s with
  | nil => cases h
  | cons c s =>
    rw [properties]
    split
    next hsome =>
      rw [h] at hsome
      cases hsome
      rfl
    next hnone =>
      rw [h] at hnone
      cases hnone

/-- Text without a bracket is passed over. -/
theorem properties_append {x : List Char} (h : '(' ∉ x) (s : List Char) :
    properties (x ++ s) = properties s := by
  induction x with
  | nil => rfl
  | cons c x ih =>
    simp only [List.mem_cons, not_or] at h
    have hnone : property? (c :: (x ++ s)) = none := by simp [property?, dropPrefix?, h.1]
    rw [List.cons_append, properties]
    split
    next hsome =>
      rw [hnone] at hsome
      cases hsome
    next => exact ih h.2

def enclosed (i : String × String) : List Char :=
  '(' :: (i.1.toList ++ ' ' :: '"' :: (i.2.toList ++ ['"', ')']))

/-- Items with some text before each of them and after the last. -/
def listing (entries : List (List Char × (String × String))) (tail : List Char) : List Char :=
  entries.flatMap (fun e => e.1 ++ enclosed e.2) ++ tail

/-- Items are read one by one, whatever stands between them, unless it has a bracket of its own. -/
theorem properties_listing {entries : List (List Char × (String × String))} {tail : List Char}
    (h : ∀ e ∈ entries, '(' ∉ e.1 ∧ ReadableItem e.2) (htail : '(' ∉ tail) :
    properties (listing entries tail) = entries.map (·.2) := by
  induction entries with
  | nil =>
    have hnone : properties (tail ++ []) = properties [] := properties_append htail []
    rw [List.append_nil, properties] at hnone
    exact hnone
  | cons e entries ih =>
    obtain ⟨hgap, hitem⟩ := h e (by simp)
    have hrest := ih fun x hx => h x (List.mem_cons_of_mem e hx)
    have hread := property?_item hitem (listing entries tail)
    have htext : listing (e :: entries) tail = e.1 ++
        '(' :: (e.2.1.toList ++ ' ' :: '"' ::
          (e.2.2.toList ++ '"' :: ')' :: listing entries tail)) := by
      simp [listing, enclosed]
    rw [htext, properties_append hgap, properties_of_some hread, hrest, List.map_cons]

theorem itemsText_eq_listing (items : List (String × String)) :
    itemsText items = listing (items.map ([' '], ·)) [] := by
  rw [listing, List.flatMap_map, List.append_nil, itemsText]
  congr 1
  funext i
  simp [itemText, enclosed]

theorem properties_itemsText {items : List (String × String)} (h : ∀ i ∈ items, ReadableItem i) :
    properties (itemsText items) = items := by
  rw [itemsText_eq_listing, properties_listing _ (List.not_mem_nil), List.map_map]
  · exact List.map_id items
  · intro e he
    obtain ⟨i, hi, rfl⟩ := List.mem_map.1 he
    exact ⟨by simp, h i hi⟩

def attributesFrom (items : List (String × String)) : Attributes :=
  items.foldl (fun as (k, v) => as.insertText k v) .empty

theorem attributesOf_itemsText {items : List (String × String)}
    (h : ∀ i ∈ items, ReadableItem i) :
    attributesOf (itemsText items) = attributesFrom items := by
  rw [attributesOf, properties_itemsText h]
  rfl

def lastValue? (items : List (String × String)) (key : String) : Option String :=
  ((items.filter (·.1 = key)).getLast?).map (·.2)

theorem get?_attributesFrom (items : List (String × String)) (key : String) :
    (attributesFrom items).get? key = (lastValue? items key).map .ofText := by
  induction items using List.reverseRecOn with
  | nil => exact Table.get?_empty key
  | append_singleton items i ih =>
    have hfold : attributesFrom (items ++ [i]) = (attributesFrom items).insertText i.1 i.2 := by
      simp [attributesFrom]
    rw [hfold, Attributes.insertText, Table.get?_insert]
    by_cases hkey : i.1 = key
    · simp [lastValue?, hkey]
    · rw [if_neg hkey, ih]
      simp [lastValue?, hkey]

def lastInteger? (items : List (String × String)) (key : String) : Option Int :=
  (lastValue? items key).bind fun v => (Text.integer? v.toList).bind int64.check?

theorem integer?_ofText (s : String) :
    (Attribute.ofText s).integer? = (Text.integer? s.toList).bind int64.check? := by
  unfold Attribute.ofText
  split
  next n hn => exact hn.symm
  next hn =>
    rw [hn]
    split <;> rfl

theorem integer?_attributesFrom (items : List (String × String)) (key : String) :
    (attributesFrom items).integer? key = lastInteger? items key := by
  rw [Attributes.integer?, get?_attributesFrom, lastInteger?]
  cases lastValue? items key with
  | none => rfl
  | some v => exact integer?_ofText v

/-- An attribute is true if it is an integer other than zero: no text of an item reads as a truth
value. -/
theorem bool?_ofText (s : String) :
    (Attribute.ofText s).bool? = (Attribute.ofText s).integer?.map fun n => decide (n ≠ 0) := by
  unfold Attribute.ofText
  split
  next => rfl
  next => split <;> rfl

theorem bool?_attributesFrom (items : List (String × String)) (key : String) :
    (attributesFrom items).bool? key = (lastInteger? items key).map fun n => decide (n ≠ 0) := by
  rw [← integer?_attributesFrom, Attributes.bool?, Attributes.integer?, get?_attributesFrom]
  cases lastValue? items key with
  | none => rfl
  | some v => exact bool?_ofText v

end Moderation.Log
