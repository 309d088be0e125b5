import Mathlib.Data.List.Basic
import Moderation.Event.Player
import Moderation.Proofs.Text.Numeral
/-!
The forms of steam ids. The bracketed form of a valid id is read back as the id, each form tells
valid ids apart, and nothing but valid ids is read.
-/
namespace Moderation.SteamId
open Number Text
variable {id other : SteamId} {s : List Char} {n : Nat} {c : Char}

theorem eq_of_toNat (h : id.word.toNat = other.word.toNat) : id = other := by
  cases id
  cases other
  exact congrArg SteamId.mk (UInt64.toNat_inj.1 h)

/-- The account number of a valid id is what the id is above the base. -/
theorem base_add_account (h : id.Valid) : base + id.account = id.word.toNat :=
  Nat.add_sub_of_le (Nat.le_of_lt h)

theorem account_pos (h : id.Valid) : 0 < id.account := Nat.sub_pos_of_lt h

theorem account_lt (id : SteamId) : id.account < Nat.pow 2 64 :=
  Nat.lt_of_le_of_lt (Nat.sub_le _ base) id.word.toNat_lt

theorem account_eq_zero (h : id.word.toNat ≤ base) : id.account = 0 := Nat.sub_eq_zero_of_le h

theorem eq_of_account (hid : id.Valid) (hother : other.Valid) (h : id.account = other.account) :
    id = other := by
  refine eq_of_toNat ?_
  rw [← base_add_account hid, h, base_add_account hother]

theorem toList_steam3 (id : SteamId) :
    id.steam3.toList = "[U:1:".toList ++ digits id.account ++ [']'] := by
  simp only [steam3, showNat, String.toList_append, String.toList_ofList]
  rfl

theorem not_mem_steam3 (hdigit : isDigit c = false) (hmark : c ∉ "[U:1:]".toList) (id : SteamId) :
    c ∉ id.steam3.toList := by
  have hmarks : "[U:1:]".toList = "[U:1:".toList ++ [']'] := rfl
  rw [hmarks, List.mem_append, not_or] at hmark
  rw [toList_steam3, List.mem_append, List.mem_append, not_or, not_or]
  exact ⟨⟨hmark.1, not_mem_digits hdigit id.account⟩, hmark.2⟩

/-- An account number between brackets is read, unless it is zero or beyond 64 bits. -/
theorem account?_bracketed (n : Nat) :
    account? ("[U:1:".toList ++ digits n ++ [']']) =
      if 0 < n ∧ n < Nat.pow 2 64 then some n else .none := by
  rw [account?, List.append_assoc, dropPrefix?_append]
  simp only [Option.bind_eq_bind, Option.bind_some, dropSuffix?_append,
    unsigned?_of_spells (spells_digits n)]

theorem account?_steam3 (h : id.Valid) : account? id.steam3.toList = some id.account := by
  rw [toList_steam3, account?_bracketed, if_pos ⟨account_pos h, id.account_lt⟩]

theorem pos_of_account? (h : account? s = some n) : 0 < n := by
  obtain ⟨inner, -, h⟩ := Option.bind_eq_some_iff.1 h
  obtain ⟨number, -, h⟩ := Option.bind_eq_some_iff.1 h
  obtain ⟨read, -, h⟩ := Option.bind_eq_some_iff.1 h
  split at h
  next hrange =>
    cases h
    exact hrange.1
  next => cases h

theorem ofAccount_eq_ok_iff : ofAccount n = .ok id ↔ id.word.toNat = base + n := by
  unfold ofAccount
  constructor
  · intro h
    split at h
    next hlt =>
      cases h
      exact Nat.mod_eq_of_lt hlt
    next => cases h
  · intro h
    have hlt : base + n < Nat.pow 2 64 := h ▸ id.word.toNat_lt
    have hword : (base + n).toUInt64.toNat = base + n := Nat.mod_eq_of_lt hlt
    rw [if_pos hlt]
    exact congrArg Except.ok (eq_of_toNat (hword.trans h.symm))

theorem ofSteam3?_steam3 (h : id.Valid) : ofSteam3? id.steam3.toList = .ok (some id) := by
  rw [ofSteam3?, account?_steam3 h]
  simp only [ofAccount_eq_ok_iff.2 (base_add_account h).symm]
  rfl

/-- An id without an account is written with account zero, which is not read. -/
theorem ofSteam3?_steam3_of_le (h : id.word.toNat ≤ base) :
    ofSteam3? id.steam3.toList = .ok .none := by
  rw [ofSteam3?, toList_steam3, account_eq_zero h, account?_bracketed]
  rfl

theorem valid_of_ofSteam3? (h : ofSteam3? s = .ok (some id)) : id.Valid := by
  unfold ofSteam3? at h
  split at h
  next n hn =>
    cases hid : ofAccount n with
    | error cause =>
      rw [hid] at h
      cases h
    | ok read =>
      rw [hid] at h
      cases h
      have hword := ofAccount_eq_ok_iff.1 hid
      have hpos := pos_of_account? hn
      change base < id.word.toNat
      omega
  next => cases h

theorem account_of_steam3 (h : id.steam3 = other.steam3) : id.account = other.account := by
  have htext := congrArg String.toList h
  rw [toList_steam3, toList_steam3] at htext
  exact digits_injective (List.append_cancel_left (List.append_cancel_right htext))

theorem showNat_append_colon_inj {y z y' z' : Nat}
    (h : "STEAM_0:" ++ showNat y ++ ":" ++ showNat z =
      "STEAM_0:" ++ showNat y' ++ ":" ++ showNat z') : y = y' ∧ z = z' := by
  have htext := congrArg String.toList h
  simp only [showNat, String.toList_append, String.toList_ofList, List.append_assoc] at htext
  have hmark : isDigit ':' = false := by decide
  exact (digits_append_cons_inj hmark (List.append_cancel_left htext)).imp_right digits_injective

/-- The numbers of the third form are the last bit of the account number and the other bits. -/
theorem steam2_eq_iff {y z : Nat} :
    id.steam2 = "STEAM_0:" ++ showNat y ++ ":" ++ showNat z ↔ y ≤ 1 ∧ 2 * z + y = id.account := by
  constructor
  · intro h
    obtain ⟨rfl, rfl⟩ := showNat_append_colon_inj h
    omega
  · rintro ⟨hy, hz⟩
    have hlow : id.account % 2 = y := by omega
    have hhigh : id.account / 2 = z := by omega
    rw [steam2, hlow, hhigh]

theorem account_of_steam2 (h : id.steam2 = other.steam2) : id.account = other.account := by
  obtain ⟨-, hsum⟩ := steam2_eq_iff.1 h
  omega

theorem eq_of_text (h : id.text = other.text) : id = other :=
  eq_of_toNat (digits_injective (String.ofList_injective h))

/-- A valid id is read back from its bracketed form, its account number is told by the two numbers
of its third form, and no other valid id has a form in common with it. An id that is not above the
base has no account, and its bracketed form is refused. Every id that is read is valid. -/
theorem forms_agree (id : SteamId) :
    (id.Valid →
      ofSteam3? id.steam3.toList = .ok (some id) ∧
      (∀ y z, id.steam2 = "STEAM_0:" ++ showNat y ++ ":" ++ showNat z ↔
        y ≤ 1 ∧ 2 * z + y = id.account) ∧
      ∀ other : SteamId, other.Valid → other ≠ id →
        other.steam2 ≠ id.steam2 ∧ other.steam3 ≠ id.steam3 ∧ other.text ≠ id.text) ∧
    (id.word.toNat ≤ base → id.account = 0 ∧ ofSteam3? id.steam3.toList = .ok .none) ∧
    ∀ s, ofSteam3? s = .ok (some id) → id.Valid := by
  refine ⟨fun hid => ⟨ofSteam3?_steam3 hid, fun y z => steam2_eq_iff, ?_⟩, ?_, ?_⟩
  · intro other hother hne
    have hdistinct : other.account ≠ id.account := fun h => hne (eq_of_account hother hid h)
    exact ⟨fun h => hdistinct (account_of_steam2 h), fun h => hdistinct (account_of_steam3 h),
      fun h => hne (eq_of_text h)⟩
  · intro hle
    exact ⟨account_eq_zero hle, ofSteam3?_steam3_of_le hle⟩
  · intro s hs
    exact valid_of_ofSteam3? hs

end Moderation.SteamId
