import Mathlib.Data.List.Basic
import Mathlib.Data.List.Infix
import Moderation.Notice.Embed
import Moderation.Proofs.Text.Utf8
/-!
The fields of an embed. Of all that it is asked to show it keeps the first twenty-five fields that
have both texts, each text cut behind a whole character. What it keeps stays as it is.
-/
namespace Moderation.Notice
open Text Time

/-- A text that is the beginning of another one: `n` whole characters at most, and the bytes of
these. -/
structure IsCut (n : Nat) (whole part : String) : Prop where
  length : part.length = min n whole.length
  text : part.toList <+: whole.toList
  bytes : Utf8.encode part.toList =
    (Utf8.encode whole.toList).take (Utf8.size (whole.toList.take n))
  readable : Utf8.decode ((Utf8.encode whole.toList).take (Utf8.size (whole.toList.take n))) =
    part.toList

@[simp] theorem toList_truncate (s : String) (n : Nat) :
    (truncate s n).toList = s.toList.take n :=
  String.toList_ofList

theorem length_truncate (s : String) (n : Nat) : (truncate s n).length = min n s.length := by
  rw [← String.length_toList, toList_truncate, List.length_take, String.length_toList]

theorem isCut_truncate (s : String) (n : Nat) : IsCut n s (truncate s n) := by
  have hbytes : Utf8.encode (s.toList.take n) =
      (Utf8.encode s.toList).take (Utf8.size (s.toList.take n)) := by
    conv_rhs => rw [← List.take_append_drop n s.toList, Utf8.encode_append, List.take_append_drop]
    exact (List.take_left ..).symm
  refine ⟨length_truncate s n, ?_, ?_, ?_⟩
  · rw [toList_truncate]
    exact List.take_prefix ..
  · rw [toList_truncate, hbytes]
  · rw [← hbytes, Utf8.decode_encode, toList_truncate]

/-- A text is shortened only if it is too long. -/
theorem truncate_of_length_le {s : String} {n : Nat} (h : s.length ≤ n) : truncate s n = s := by
  rw [← String.toList_inj, toList_truncate, List.take_of_length_le]
  rwa [String.length_toList]

theorem truncate_ne_empty {s : String} {n : Nat} (hn : 0 < n) (h : s ≠ "") : truncate s n ≠ "" := by
  rw [ne_eq, ← String.toList_eq_nil_iff, toList_truncate, List.take_eq_nil_iff, not_or,
    String.toList_eq_nil_iff]
  exact ⟨Nat.ne_of_gt hn, h⟩

namespace Field

def HasTexts (f : Field) : Prop := f.name ≠ "" ∧ f.value ≠ ""

instance (f : Field) : Decidable f.HasTexts := inferInstanceAs (Decidable (_ ∧ _))

def cut (f : Field) : Field := ⟨truncate f.name 256, truncate f.value 1024, f.inline⟩

structure IsShown (f : Field) : Prop where
  name_ne : f.name ≠ ""
  value_ne : f.value ≠ ""
  name_le : f.name.length ≤ 256
  value_le : f.value.length ≤ 1024

theorem isShown_cut {f : Field} (h : f.HasTexts) : f.cut.IsShown where
  name_ne := truncate_ne_empty (by decide) h.1
  value_ne := truncate_ne_empty (by decide) h.2
  name_le := by
    rw [cut, length_truncate]
    exact Nat.min_le_left ..
  value_le := by
    rw [cut, length_truncate]
    exact Nat.min_le_left ..

theorem IsShown.cut_eq {f : Field} (h : f.IsShown) : f.cut = f := by
  rw [cut, truncate_of_length_le h.name_le, truncate_of_length_le h.value_le]

end Field

/-- Something that an embed is asked to show. -/
inductive Addition where
  | field (name value : String)
  | inlineField (name value : String)
  | steamId (id : SteamId)

def Addition.fields : Addition → List Field
  | field name value => [⟨name, value, false⟩]
  | inlineField name value => [⟨name, value, true⟩]
  | steamId id =>
    [⟨"STEAM", id.steam2, true⟩, ⟨"STEAM3", id.steam3, true⟩, ⟨"SID64", id.text, true⟩]

namespace Embed
variable {e : Embed}

def perform (e : Embed) : Addition → Embed
  | .field name value => e.add name value
  | .inlineField name value => e.addInline name value
  | .steamId id => e.addSteamId id

def performAll (e : Embed) (as : List Addition) : Embed := as.foldl perform e

def pushAll (e : Embed) (fs : List Field) : Embed := fs.foldl push e

theorem pushAll_append (e : Embed) (fs gs : List Field) :
    e.pushAll (fs ++ gs) = (e.pushAll fs).pushAll gs :=
  List.foldl_append ..

theorem performAll_eq (e : Embed) (as : List Addition) :
    e.performAll as = e.pushAll (as.flatMap Addition.fields) := by
  rw [pushAll, List.foldl_flatMap, performAll]
  congr 1
  funext e a
  cases a <;> rfl

theorem push_of_not_hasTexts {f : Field} (h : ¬ f.HasTexts) : e.push f = e :=
  if_pos (.inr (not_and_or.1 h |>.imp not_not.1 not_not.1))

theorem push_of_full {f : Field} (h : 25 ≤ e.fields.length) : e.push f = e := if_pos (.inl h)

theorem push_of_room {f : Field} (h : f.HasTexts) (hroom : e.fields.length < 25) :
    e.push f = { e with fields := e.fields ++ [f.cut] } := by
  refine if_neg ?_
  rintro (hfull | hname | hvalue)
  · exact absurd hfull (Nat.not_le_of_lt hroom)
  · exact h.1 hname
  · exact h.2 hvalue

/-- Adding fields changes nothing else. -/
theorem exists_pushAll (e : Embed) (fs : List Field) :
    ∃ fields, e.pushAll fs = { e with fields } := by
  induction fs generalizing e with
  | nil => exact ⟨e.fields, rfl⟩
  | cons f fs ih =>
    obtain ⟨fields, h⟩ := ih (e.push f)
    refine ⟨fields, h.trans ?_⟩
    unfold push
    split <;> rfl

theorem fields_pushAll (fs : List Field) (hroom : e.fields.length ≤ 25) :
    (e.pushAll fs).fields = (e.fields ++ (fs.filter (·.HasTexts)).map Field.cut).take 25 := by
  induction fs generalizing e with
  | nil =>
    rw [List.filter_nil, List.map_nil, List.append_nil, List.take_of_length_le hroom]
    rfl
  | cons f fs ih =>
    have hcons : e.pushAll (f :: fs) = (e.push f).pushAll fs := rfl
    rw [hcons]
    by_cases hf : f.HasTexts
    · rw [List.filter_cons_of_pos (by simpa using hf), List.map_cons]
      obtain hlt | hfull := Nat.lt_or_ge e.fields.length 25
      · have hnext : (e.fields ++ [f.cut]).length ≤ 25 := by
          rw [List.length_append]
          exact hlt
        rw [push_of_room hf hlt, ih hnext, List.append_assoc, List.singleton_append]
      · -- whatever comes after a full list is cut off
        rw [push_of_full hfull, ih hroom, List.take_append_of_le_length hfull,
          List.take_append_of_le_length hfull]
    · rw [push_of_not_hasTexts hf, ih hroom, List.filter_cons_of_neg (by simpa using hf)]

/-- With room for all of them, only fields that lack a text are left out. -/
theorem fields_pushAll_of_room {fs : List Field} (hroom : e.fields.length + fs.length ≤ 25) :
    (e.pushAll fs).fields = e.fields ++ (fs.filter (·.HasTexts)).map Field.cut := by
  have hfilter : (fs.filter (·.HasTexts)).length ≤ fs.length := List.length_filter_le ..
  rw [fields_pushAll fs (Nat.le_trans (Nat.le_add_right ..) hroom), List.take_of_length_le]
  rw [List.length_append, List.length_map]
  omega

theorem fields_pushAll_of_isShown {fs : List Field} (hroom : e.fields.length + fs.length ≤ 25)
    (h : ∀ f ∈ fs, f.IsShown) : (e.pushAll fs).fields = e.fields ++ fs := by
  have hall : fs.filter (·.HasTexts) = fs :=
    List.filter_eq_self.2 fun f hf => decide_eq_true ⟨(h f hf).name_ne, (h f hf).value_ne⟩
  have hcut : fs.map Field.cut = fs.map id := List.map_congr_left fun f hf => (h f hf).cut_eq
  rw [fields_pushAll_of_room hroom, hall, hcut, List.map_id]

/-- What has been kept stays. -/
theorem fields_prefix_pushAll (fs : List Field) (hroom : e.fields.length ≤ 25) :
    e.fields <+: (e.pushAll fs).fields := by
  have hkept : e.fields <+: (e.fields ++ (fs.filter (·.HasTexts)).map Field.cut).take 25 := by
    rw [List.prefix_take_iff]
    exact ⟨List.prefix_append .., hroom⟩
  rwa [fields_pushAll fs hroom]

/-- All limits of the platform hold, and no field lacks a text. -/
structure IsWithinLimits (e : Embed) : Prop where
  title : e.title.length ≤ 256
  description : ∀ text ∈ e.description, text.length ≤ 2048
  count : e.fields.length ≤ 25
  fields : ∀ f ∈ e.fields, f.IsShown

theorem isWithinLimits_titled (title text : String) (color : Color) (now : Instant) :
    ((titled title color now).describe text).IsWithinLimits where
  title := by
    change (truncate title 256).length ≤ 256
    rw [length_truncate]
    exact Nat.min_le_left ..
  description := by
    rintro _ ⟨⟩
    rw [length_truncate]
    exact Nat.min_le_left ..
  count := Nat.zero_le 25
  fields := nofun

theorem IsWithinLimits.push {f : Field} (h : e.IsWithinLimits) : (e.push f).IsWithinLimits := by
  by_cases hf : f.HasTexts
  · obtain hroom | hfull := Nat.lt_or_ge e.fields.length 25
    · rw [push_of_room hf hroom]
      refine ⟨h.title, h.description, ?_, fun g hg => ?_⟩
      · rw [List.length_append]
        exact hroom
      · obtain hg | hg := List.mem_append.1 hg
        · exact h.fields g hg
        · rw [List.mem_singleton.1 hg]
          exact Field.isShown_cut hf
    · rwa [push_of_full hfull]
  · rwa [push_of_not_hasTexts hf]

theorem IsWithinLimits.pushAll {fs : List Field} (h : e.IsWithinLimits) :
    (e.pushAll fs).IsWithinLimits := by
  induction fs generalizing e with
  | nil => exact h
  | cons f fs ih => exact ih h.push

/-- What additions leave of an embed that has a title and a description: of the fields that they ask
for, the first twenty-five with both texts. Texts are cut between characters, all limits hold, and
later additions leave everything as it is. -/
theorem fields_of_additions (title text : String) (color : Color) (now : Instant)
    (as later : List Addition) :
    let e := ((titled title color now).describe text).performAll as
    e.fields = (((as.flatMap Addition.fields).filter (·.HasTexts)).take 25).map Field.cut ∧
    e.title = truncate title 256 ∧ e.description = some (truncate text 2048) ∧
    (∀ s n, IsCut n s (truncate s n)) ∧
    e.IsWithinLimits ∧
    e.fields <+: (e.performAll later).fields ∧ (e.performAll later).title = e.title ∧
      (e.performAll later).description = e.description := by
  intro e
  have hstart := isWithinLimits_titled title text color now
  set start := (titled title color now).describe text
  have heq : e = start.pushAll (as.flatMap Addition.fields) := performAll_eq ..
  have hlimits : e.IsWithinLimits := heq ▸ hstart.pushAll
  obtain ⟨fields, hframe⟩ := exists_pushAll start (as.flatMap Addition.fields)
  obtain ⟨laterFields, hlater⟩ := exists_pushAll e (later.flatMap Addition.fields)
  rw [← performAll_eq] at hlater
  refine ⟨?_, ?_, ?_, isCut_truncate, hlimits, ?_, ?_, ?_⟩
  · rw [heq, fields_pushAll _ hstart.count, List.map_take]
    rfl
  · rw [heq, hframe]
    rfl
  · rw [heq, hframe]
    rfl
  · rw [performAll_eq]
    exact fields_prefix_pushAll _ hlimits.count
  · rw [hlater]
  · rw [hlater]

end Embed
end Moderation.Notice
