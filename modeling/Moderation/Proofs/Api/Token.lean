import Moderation.Api.Service
import Moderation.Proofs.Text.Blank
/-!
Tokens in requests. Which token a request carries is told by the text of its header alone: what
stands behind the scheme, up to the white space around it.
-/
namespace Moderation.Api
open Text

/-- A request carries a token: its header can be read, and between the scheme and the end there is
white space around the token. -/
def Request.Carries (r : Request) (token : String) : Prop :=
  ∃ header before after, r.authorization = some header ∧
    (∀ c ∈ header.toList, c = '\t' ∨ 0x20 ≤ c.toNat ∧ c.toNat < 0x7F) ∧
    header.toList = "Bearer ".toList ++ (before ++ token.toList ++ after) ∧
    IsBare token.toList ∧ (∀ c ∈ before, isBlank c = true) ∧ ∀ c ∈ after, isBlank c = true

theorem isReadable_iff {s : List Char} :
    isReadable s = true ↔ ∀ c ∈ s, c = '\t' ∨ 0x20 ≤ c.toNat ∧ c.toNat < 0x7F := by
  simp [isReadable, List.all_eq_true]

namespace Request
variable {r : Request} {token header : String}

theorem token?_of_readable (hheader : r.authorization = some header)
    (hreadable : isReadable header.toList = true) :
    r.token? = (dropPrefix? "Bearer ".toList header.toList).bind fun rest =>
      if (trim rest).isEmpty then none else some (String.ofList (trim rest)) := by
  have hnot : ¬ (!isReadable header.toList) = true := by
    rw [hreadable]
    exact Bool.false_ne_true
  rw [token?, hheader, Option.bind_eq_bind, Option.bind_some, if_neg hnot]
  rfl

theorem exists_header (h : r.token? = some token) :
    ∃ header, r.authorization = some header ∧ isReadable header.toList = true := by
  obtain ⟨header, hheader, h⟩ := Option.bind_eq_some_iff.1 h
  refine ⟨header, hheader, ?_⟩
  cases hreadable : isReadable header.toList with
  | false => simp [hreadable] at h
  | true => rfl

theorem token?_eq_some_iff : r.token? = some token ↔ r.Carries token := by
  constructor
  · intro h
    obtain ⟨header, hheader, hreadable⟩ := exists_header h
    rw [token?_of_readable hheader hreadable] at h
    obtain ⟨rest, hrest, h⟩ := Option.bind_eq_some_iff.1 h
    split at h
    next => cases h
    next hne =>
      obtain rfl := Option.some.inj h
      have hne' : trim rest ≠ [] := fun hnil => hne (by rw [hnil]; rfl)
      obtain ⟨hbare, before, after, heq, hbefore, hafter⟩ := exists_of_trim hne'
      have htoken : (String.ofList (trim rest)).toList = trim rest := String.toList_ofList
      refine ⟨header, before, after, hheader, isReadable_iff.1 hreadable, ?_, ?_, hbefore, hafter⟩
      · rw [htoken, ← heq]
        exact eq_append_of_dropPrefix? hrest
      · rwa [htoken]
  · rintro ⟨header, before, after, hheader, hreadable, htext, hbare, hbefore, hafter⟩
    have hne : ¬ token.toList.isEmpty = true := by
      obtain ⟨c, rest, hc, -⟩ := hbare.first
      rw [hc]
      exact fun h => by cases h
    rw [token?_of_readable hheader (isReadable_iff.2 hreadable), htext, dropPrefix?_append,
      Option.bind_some, trim_of_bare hbare hbefore hafter, if_neg hne, String.ofList_toList]

end Request
end Moderation.Api
