import Moderation.Proofs.Log.Items
import Moderation.Proofs.Number.Decimal
/-!
The values of properties. What is written under a key comes back under it: as a number if the text
reads as one of 64 bits, and unchanged if it reads as no number at all.
-/
namespace Moderation.Log
open Text Number
variable {value : String} {n : Int}

theorem ofText_of_spellsInteger (h : SpellsInteger value.toList n) (hn : int64.Holds n) :
    Attribute.ofText value = .integer n := by
  have hread : (integer? value.toList).bind int64.check? = some n := by
    rw [integer?_eq_some_iff.2 h, Option.bind_some, Range.check?, if_pos hn]
  rw [Attribute.ofText, hread]

theorem ofText_of_not_spellsReal (hinteger : ∀ n, SpellsInteger value.toList n → ¬ int64.Holds n)
    (hreal : ¬ SpellsReal value.toList) : Attribute.ofText value = .text value := by
  have hnone : (integer? value.toList).bind int64.check? = none := by
    rw [Option.bind_eq_none_iff]
    intro n hn
    exact if_neg (hinteger n (integer?_eq_some_iff.1 hn))
  have hno : Double.ofText? value.toList = none := by
    rw [← Option.not_isSome_iff_eq_none, Double.ofText?_isSome]
    exact hreal
  rw [Attribute.ofText, hnone, hno]

theorem spellsInteger_showInt (n : Int) : SpellsInteger (showInt n).toList n := by
  rw [toList_showInt, ← integer?_eq_some_iff, integer?_decimal]

/-- How attributes give back the value of a key. -/
structure ReadsBack (as : Attributes) (key value : String) : Prop where
  integer : ∀ n, SpellsInteger value.toList n → int64.Holds n →
    as.integer? key = some n ∧ as.text? key = none
  written : ∀ n, value = showInt n → int64.Holds n → as.integer? key = some n
  text : (∀ n, SpellsInteger value.toList n → ¬ int64.Holds n) → ¬ SpellsReal value.toList →
    as.text? key = some value ∧ as.integer? key = none ∧ as.bool? key = none

theorem readsBack_of_get? {as : Attributes} {key : String}
    (h : as.get? key = some (.ofText value)) : ReadsBack as key value := by
  have hnumber : ∀ n, SpellsInteger value.toList n → int64.Holds n →
      as.integer? key = some n ∧ as.text? key = none := by
    intro n hs hn
    rw [ofText_of_spellsInteger hs hn] at h
    rw [Attributes.integer?, Attributes.text?, h]
    exact ⟨rfl, rfl⟩
  refine ⟨hnumber, ?_, fun hinteger hreal => ?_⟩
  · rintro n rfl hn
    exact (hnumber n (spellsInteger_showInt n) hn).1
  · rw [ofText_of_not_spellsReal hinteger hreal] at h
    rw [Attributes.integer?, Attributes.text?, Attributes.bool?, h]
    exact ⟨rfl, rfl, rfl⟩

/-- Items with anything but an opening bracket between them give the attributes that they give when
they are inserted one by one. Each key has the value of its last item, which is read back. -/
theorem attributesOf_listing {entries : List (List Char × (String × String))} {tail : List Char}
    (h : ∀ e ∈ entries, '(' ∉ e.1 ∧ ReadableItem e.2) (htail : '(' ∉ tail) :
    let as := attributesOf (listing entries tail)
    let items := entries.map (·.2)
    as = attributesFrom items ∧
    (∀ key, as.get? key = (lastValue? items key).map .ofText) ∧
    ∀ key value, lastValue? items key = some value → ReadsBack as key value := by
  intro as items
  have heq : as = attributesFrom items := by
    change attributesOf _ = _
    rw [attributesOf, properties_listing h htail]
    rfl
  have hget : ∀ key, as.get? key = (lastValue? items key).map .ofText := by
    intro key
    rw [heq, get?_attributesFrom]
  refine ⟨heq, hget, fun key value hlast => readsBack_of_get? ?_⟩
  rw [hget, hlast, Option.map_some]

/-- A key that is given twice, and a value that looks like the start of an item. -/
def imitatedItems : List (List Char × (String × String)) :=
  [("against \"V\" ".toList, ("damage", "12")), (") ".toList, ("note", "(k (damage ")),
    ([], ("damage", "-7"))]

theorem attributesOf_listing_imitation :
    (∀ e ∈ imitatedItems, '(' ∉ e.1 ∧ ReadableItem e.2) ∧ '(' ∉ " end)".toList ∧
      let as := attributesOf (listing imitatedItems " end)".toList)
      as.integer? "damage" = some (-7) ∧ as.text? "damage" = none ∧
        as.text? "note" = some "(k (damage " ∧ as.bool? "note" = none ∧ as.get? "k" = none := by
  have hitems : ∀ e ∈ imitatedItems, '(' ∉ e.1 ∧ ReadableItem e.2 := by
    have hchecked : ∀ e ∈ imitatedItems, '(' ∉ e.1 ∧ e.2.1.toList ≠ [] ∧
        e.2.1.toList.all isWordChar = true ∧ '"' ∉ e.2.2.toList := by
      decide +kernel
    intro e he
    obtain ⟨hgap, hne, hkey, hvalue⟩ := hchecked e he
    exact ⟨hgap, hne, List.all_eq_true.1 hkey, hvalue⟩
  have htail : '(' ∉ " end)".toList := by decide
  obtain ⟨-, hget, hread⟩ := attributesOf_listing hitems htail
  have hdamage := hread "damage" "-7" (by decide)
  have hnote := hread "note" "(k (damage " (by decide)
  obtain ⟨hnumber, htext⟩ := hdamage.integer (-7) (integer?_eq_some_iff.1 (by decide)) (by decide)
  have hword : Double.ofText? "(k (damage ".toList = none := by decide +kernel
  have hreal : ¬ SpellsReal "(k (damage ".toList := by
    rw [← Double.ofText?_isSome, hword]
    exact Bool.false_ne_true
  have hinteger : ∀ n, SpellsInteger "(k (damage ".toList n → ¬ int64.Holds n := by
    intro n hn
    have hsome := integer?_eq_some_iff.2 hn
    cases hsome
  obtain ⟨hsame, -, hbool⟩ := hnote.text hinteger hreal
  exact ⟨hitems, htail, hnumber, htext, hsame, hbool, (hget "k").trans (by decide)⟩

end Moderation.Log
