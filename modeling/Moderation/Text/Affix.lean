/-!
Fixed beginnings and ends of texts, and the case-blind comparison of ASCII letters.
-/
namespace Moderation.Text

def dropPrefix? : List Char → List Char → Option (List Char)
  | [], s => some s
  | _ :: _, [] => none
  | a :: p, c :: s => if a = c then dropPrefix? p s else none

theorem dropPrefix?_append (p s : List Char) : dropPrefix? p (p ++ s) = some s := by
  induction p with
  | nil => cases s <;> rfl
  | cons a p ih => simp [dropPrefix?, ih]

theorem eq_append_of_dropPrefix? {p s r : List Char} (h : dropPrefix? p s = some r) :
    s = p ++ r := by
  induction p generalizing s with
  | nil => cases s <;> simp_all [dropPrefix?]
  | cons a p ih =>
    cases s with
    | nil => simp [dropPrefix?] at h
    | cons c s =>
      by_cases hc : a = c
      · simp only [dropPrefix?, hc, if_true] at h
        simp [hc, ih h]
      · simp [dropPrefix?, hc] at h

theorem length_dropPrefix? {p s r : List Char} (h : dropPrefix? p s = some r) :
    r.length ≤ s.length := by
  rw [eq_append_of_dropPrefix? h]
  simp

def dropSuffix? (p s : List Char) : Option (List Char) :=
  (dropPrefix? p.reverse s.reverse).map List.reverse

theorem dropSuffix?_append (p s : List Char) : dropSuffix? p (s ++ p) = some s := by
  rw [dropSuffix?, List.reverse_append, dropPrefix?_append]
  simp

def asciiLower (c : Char) : Char :=
  if 65 ≤ c.toNat ∧ c.toNat ≤ 90 then Char.ofNat (c.toNat + 32) else c

def lowerAscii (s : String) : String := String.ofList (s.toList.map asciiLower)

end Moderation.Text
