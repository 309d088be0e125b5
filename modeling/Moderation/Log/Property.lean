import Moderation.Event.Attribute
import Moderation.Log.Tag
/-!
Properties at the end of a log line: items `(key "value")` with any text between them.
-/
namespace Moderation.Log
open Text

def quoted? (s : List Char) : Option (List Char × List Char) := upTo? '"' s

def property? (s : List Char) : Option ((String × String) × List Char) := do
  let s ← dropPrefix? ['('] s
  let key := s.takeWhile isWordChar
  if key.isEmpty then none
  let s ← dropPrefix? [' ', '"'] (s.drop key.length)
  let (value, s) ← quoted? s
  let s ← dropPrefix? [')'] s
  return ((String.ofList key, String.ofList value), s)

theorem length_property? {s r : List Char} {item : String × String}
    (h : property? s = some (item, r)) : r.length < s.length := by
  simp only [property?, Option.bind_eq_bind, Option.bind_eq_some_iff] at h
  obtain ⟨s₁, h₁, h⟩ := h
  split at h
  · simp at h
  simp only [Option.bind_eq_some_iff] at h
  obtain ⟨s₂, h₂, ⟨v, s₃⟩, h₃, s₄, h₄, h⟩ := h
  simp only [Option.pure_def, Option.some.injEq, Prod.mk.injEq] at h
  obtain ⟨-, rfl⟩ := h
  have a := length_dropPrefix? h₁
  have b := length_dropPrefix? h₂
  have c := length_upTo? h₃
  have d : s₄.length ≤ s₃.length := length_dropPrefix? h₄
  simp only [List.length_drop] at b
  omega

def properties (s : List Char) : List (String × String) :=
  match s with
  | [] => []
  | c :: s =>
    match _h : property? (c :: s) with
    | some (item, rest) => item :: properties rest
    | none => properties s
termination_by s.length
decreasing_by
  · exact length_property? ‹_›
  · simp

/-- The attributes that the items of a text give; the last of equal keys counts. -/
def attributesOf (s : List Char) : Attributes :=
  (properties s).foldl (fun as (k, v) => as.insertText k v) .empty

end Moderation.Log
