import Mathlib.Data.List.Basic
import Mathlib.Data.List.TakeWhile
import Moderation.Log.Classified
import Moderation.Proofs.Text.Numeral
/-!
Lines with a header. Such a line has the time of its header, what it says is read from its body, and
its players are read from their tags.
-/
namespace Moderation.Text

theorem isDecimalDigit_of_isDigit {c : Char} (h : isDigit c = true) : isDecimalDigit c = true := by
  have hrange : 48 ≤ c.toNat ∧ c.toNat ≤ 57 := by simpa [isDigit] using h
  have hascii : c.toNat < 128 := by omega
  simp [isDecimalDigit, hascii, hrange.1, hrange.2]

theorem isDigit_of_mem_padded {width n : Nat} {c : Char} (h : c ∈ padded width n) :
    isDigit c = true := by
  rcases List.mem_append.1 h with hzero | hdigit
  · rw [List.eq_of_mem_replicate hzero]
    rfl
  · exact List.all_eq_true.1 (all_isDigit_digits n) c hdigit

/-- Zeros before a number do not change it. -/
theorem natural?_padded (width n : Nat) : natural? (padded width n) = some n := by
  have hzeros : ∀ k, accumulate 0 (List.replicate k '0' ++ digits n) = n := by
    intro k
    induction k with
    | zero => exact accumulate_digits n
    | succ k ih => exact ih
  have hall : (padded width n).all isDigit = true :=
    List.all_eq_true.2 fun c hc => isDigit_of_mem_padded hc
  have hne : padded width n ≠ [] := by simp [padded, digits_ne_nil]
  rw [natural?, if_pos ⟨hne, hall⟩]
  exact congrArg some (hzeros _)

theorem isDecimalDigit_of_mem_padded {width n : Nat} {c : Char} (h : c ∈ padded width n) :
    isDecimalDigit c = true :=
  isDecimalDigit_of_isDigit (isDigit_of_mem_padded h)

theorem padded_two {n : Nat} (h : n < 100) :
    ∃ a b, padded 2 n = [a, b] ∧ natural? [a, b] = some n ∧
      isDecimalDigit a = true ∧ isDecimalDigit b = true := by
  obtain ⟨a, b, hab⟩ := List.length_eq_two.1 (length_padded h)
  have hdigit : ∀ c ∈ [a, b], isDecimalDigit c = true := fun c hc =>
    isDecimalDigit_of_mem_padded (hab ▸ hc)
  exact ⟨a, b, hab, hab ▸ natural?_padded 2 n, hdigit a (by simp), hdigit b (by simp)⟩

theorem padded_four {n : Nat} (h : n < 10000) :
    ∃ a b c d, padded 4 n = [a, b, c, d] ∧ natural? [a, b, c, d] = some n ∧
      isDecimalDigit a = true ∧ isDecimalDigit b = true ∧ isDecimalDigit c = true ∧
      isDecimalDigit d = true := by
  have hlen : (padded 4 n).length = 4 := length_padded h
  match hp : padded 4 n, hlen with
  | [a, b, c, d], _ =>
    have hdigit : ∀ x ∈ [a, b, c, d], isDecimalDigit x = true := fun x hx =>
      isDecimalDigit_of_mem_padded (hp ▸ hx)
    exact ⟨a, b, c, d, rfl, hp ▸ natural?_padded 4 n, hdigit a (by simp), hdigit b (by simp),
      hdigit c (by simp), hdigit d (by simp)⟩

theorem trim_ne_nil {c : Char} (hc : isBlank c = false) (s : List Char) : trim (c :: s) ≠ [] := by
  have hstart : trimStart (c :: s) = c :: s := List.dropWhile_cons_of_neg (by simp [hc])
  intro hnil
  rw [trim, hstart, trimEnd, List.reverse_eq_nil_iff] at hnil
  have hblank := List.dropWhile_eq_nil_iff.1 hnil c (by simp)
  rw [hc] at hblank
  cases hblank

end Moderation.Text

namespace Moderation.Log
open Text Time

/-- A date and a time of day as a header can have them. Second 60 is a leap second. -/
structure Head where
  year : Nat
  month : Nat
  day : Nat
  hour : Nat
  minute : Nat
  second : Nat
  year_lt : year < 10000
  date : (Date.mk year month day).Valid
  hour_lt : hour < 24
  minute_lt : minute < 60
  second_le : second ≤ 60

namespace Head

def text (h : Head) : List Char :=
  padded 2 h.month ++ '/' :: padded 2 h.day ++ '/' :: padded 4 h.year ++ ' ' :: '-' :: ' ' ::
    padded 2 h.hour ++ ':' :: padded 2 h.minute ++ ':' :: padded 2 h.second

/-- The time that a header says; in a leap second it is a second after second 59. -/
def stamp (h : Head) : Stamp :=
  let start : Int := (Date.mk h.year h.month h.day).toDays * 86400 +
    (3600 * h.hour + 60 * h.minute : Nat)
  if h.second = 60 then ⟨start + 59, 1000000000⟩ else ⟨start + h.second, 0⟩

def line (h : Head) (body : List Char) : String :=
  String.ofList ('L' :: ' ' :: h.text ++ ':' :: ' ' :: body)

/-- A header has digits and marks where they are looked for. -/
theorem exists_text_eq (h : Head) : ∃ m₁ m₂ d₁ d₂ y₁ y₂ y₃ y₄ h₁ h₂ n₁ n₂ s₁ s₂,
    h.text = [m₁, m₂, '/', d₁, d₂, '/', y₁, y₂, y₃, y₄, ' ', '-', ' ', h₁, h₂, ':', n₁, n₂, ':',
      s₁, s₂] ∧
    natural? [m₁, m₂] = some h.month ∧ natural? [d₁, d₂] = some h.day ∧
    natural? [y₁, y₂, y₃, y₄] = some h.year ∧ natural? [h₁, h₂] = some h.hour ∧
    natural? [n₁, n₂] = some h.minute ∧ natural? [s₁, s₂] = some h.second ∧
    ∀ c ∈ [m₁, m₂, d₁, d₂, y₁, y₂, y₃, y₄, h₁, h₂, n₁, n₂, s₁, s₂], isDecimalDigit c = true := by
  obtain ⟨-, -, -, hmonth, -, hday⟩ := h.date
  have hdays : daysInMonth h.year h.month ≤ 31 := by
    unfold daysInMonth
    split_ifs <;> omega
  have hhour := h.hour_lt
  have hminute := h.minute_lt
  have hsecond := h.second_le
  simp only at hmonth hday
  obtain ⟨m₁, m₂, hm, hm', hm₁, hm₂⟩ := padded_two (n := h.month) (by omega)
  obtain ⟨d₁, d₂, hd, hd', hd₁, hd₂⟩ := padded_two (n := h.day) (by omega)
  obtain ⟨y₁, y₂, y₃, y₄, hy, hy', hy₁, hy₂, hy₃, hy₄⟩ := padded_four h.year_lt
  obtain ⟨h₁, h₂, hh, hh', hh₁, hh₂⟩ := padded_two (n := h.hour) (by omega)
  obtain ⟨n₁, n₂, hn, hn', hn₁, hn₂⟩ := padded_two (n := h.minute) (by omega)
  obtain ⟨s₁, s₂, hs, hs', hs₁, hs₂⟩ := padded_two (n := h.second) (by omega)
  refine ⟨m₁, m₂, d₁, d₂, y₁, y₂, y₃, y₄, h₁, h₂, n₁, n₂, s₁, s₂, ?_, hm', hd', hy', hh', hn', hs',
    ?_⟩
  · simp only [text, hm, hd, hy, hh, hn, hs]
    rfl
  · simp only [List.forall_mem_cons]
    exact ⟨hm₁, hm₂, hd₁, hd₂, hy₁, hy₂, hy₃, hy₄, hh₁, hh₂, hn₁, hn₂, hs₁, hs₂, nofun⟩

theorem ofHeader?_text (h : Head) : Stamp.ofHeader? h.text = some h.stamp := by
  obtain ⟨_, _, _, _, _, _, _, _, _, _, _, _, _, _, htext, hm, hd, hy, hh, hn, hs, -⟩ :=
    h.exists_text_eq
  have hcivil : Stamp.ofCivil? ⟨h.year, h.month, h.day⟩ h.hour h.minute h.second 0 =
      some h.stamp := by
    rw [Stamp.ofCivil?, if_pos ⟨h.date, h.hour_lt, h.minute_lt, h.second_le, by decide⟩]
    unfold stamp
    by_cases hleap : h.second = 60
    · simp [hleap]
    · simp [hleap]
  simp only [htext, Stamp.ofHeader?, hm, hd, hy, hh, hn, hs, Option.bind_eq_bind, Option.bind_some,
    hcivil]

theorem length_text (h : Head) : h.text.length = 21 := by
  obtain ⟨_, _, _, _, _, _, _, _, _, _, _, _, _, _, htext, -⟩ := h.exists_text_eq
  rw [htext]
  rfl

theorem all_zip_text (h : Head) : (h.text.zip "dd/dd/dddd - dd:dd:dd".toList).all
    (fun (c, m) => if m = 'd' then isDecimalDigit c else c = m) = true := by
  obtain ⟨_, _, _, _, _, _, _, _, _, _, _, _, _, _, htext, -, -, -, -, -, -, hall⟩ :=
    h.exists_text_eq
  have hshape : "dd/dd/dddd - dd:dd:dd".toList = ['d', 'd', '/', 'd', 'd', '/', 'd', 'd', 'd', 'd',
    ' ', '-', ' ', 'd', 'd', ':', 'd', 'd', ':', 'd', 'd'] := by decide
  simp only [List.forall_mem_cons] at hall
  rw [htext, hshape]
  simp [hall]

theorem header?_line (h : Head) {body : List Char} (hbody : Statement.isOneLine body = true) :
    header? ('L' :: ' ' :: h.text ++ ':' :: ' ' :: body) = some (h.text, body) := by
  have htake : (h.text ++ ':' :: ' ' :: body).take 21 = h.text := List.take_left' h.length_text
  have hdrop : (h.text ++ ':' :: ' ' :: body).drop 21 = ':' :: ' ' :: body :=
    List.drop_left' h.length_text
  unfold header?
  simp only [List.cons_append, dropPrefix?, if_true, Option.bind_eq_bind, Option.bind_some, htake,
    hdrop, h.length_text, h.all_zip_text, hbody, and_self]

end Head

theorem tidy_line (h : Head) {body : List Char} {c : Char} (hc : body.getLast? = some c)
    (hend : c ≠ '\r' ∧ c ≠ '\n') :
    tidy (h.line body).toList = 'L' :: ' ' :: h.text ++ ':' :: ' ' :: body := by
  obtain ⟨s, rfl⟩ : ∃ s, body = s ++ [c] := List.getLast?_eq_some_iff.1 hc
  rw [Head.line, String.toList_ofList, tidy, dropEndWhile]
  simp [hend]

theorem timed_line (now : Stamp) (h : Head) {body : List Char} {c : Char}
    (hbody : Statement.isOneLine body = true) (hc : body.getLast? = some c) (hend : c ≠ '\r') :
    timed now (tidy (h.line body).toList) = .ok (h.stamp, body) := by
  have hline : c ≠ '\n' := by
    have hall := List.all_eq_true.1 hbody c (List.mem_of_getLast? hc)
    simpa using hall
  rw [tidy_line h hc ⟨hend, hline⟩, timed, h.header?_line hbody]
  simp only [h.ofHeader?_text]

def Classified.of (origin : Server) (time : Stamp) : Except Failure Content → Classified
  | .error failure => .unknown origin time failure
  | .ok c => ⟨⟨c.kind, origin, c.actor, time, c.payload, c.attributes⟩, none⟩

/-- Time and body of a line that is read: one whose header has a time and that is not blank. -/
def body? (now : Stamp) (line : String) : Option (Stamp × List Char) :=
  match timed now (tidy line.toList) with
  | .error _ => none
  | .ok (time, body) => if (trim body).isEmpty then none else some (time, body)

theorem classify_of_body? {now time : Stamp} (origin : Server) {line : String} {body : List Char}
    (h : body? now line = some (time, body)) :
    classify now origin line = (Content.ofStatement body (.ofBody body)).map (.of origin time) := by
  cases htimed : timed now (tidy line.toList) with
  | error failure =>
    simp only [body?, htimed] at h
    cases h
  | ok read =>
    obtain ⟨t, b⟩ := read
    simp only [body?, htimed] at h
    split at h
    next => cases h
    next hblank =>
      cases h
      simp only [classify, htimed, hblank]
      cases Content.ofStatement body (.ofBody body) with
      | error o => rfl
      | ok content => cases content <;> rfl

/-- A line that is not read has a bad time or is blank. -/
theorem classify_of_no_body {now : Stamp} (origin : Server) {line : String}
    (h : body? now line = none) :
    (∃ failure, classify now origin line = .ok (.unknown origin now failure)) ∨
      ∃ time, classify now origin line = .ok ⟨.bare .ignored origin time, none⟩ := by
  cases htimed : timed now (tidy line.toList) with
  | error failure => exact .inl ⟨failure, by simp only [classify, htimed]; rfl⟩
  | ok read =>
    simp only [body?, htimed] at h
    split at h
    next hblank => exact .inr ⟨read.1, by simp only [classify, htimed, hblank]; rfl⟩
    next => cases h

/-- A line that fails gives an event of unknown kind. -/
theorem kind_of_failure {now : Stamp} {origin : Server} {line : String} {c : Classified}
    (h : classify now origin line = .ok c) (hf : c.failure.isSome = true) :
    c.event.kind = .unknown := by
  cases hbody : body? now line with
  | none =>
    rcases classify_of_no_body origin hbody with ⟨failure, hc⟩ | ⟨time, hc⟩
    · rw [hc] at h
      cases h
      rfl
    · rw [hc] at h
      cases h
      cases hf
  | some read =>
    rw [classify_of_body? origin hbody] at h
    cases hcontent : Content.ofStatement read.2 (.ofBody read.2) with
    | error o =>
      rw [hcontent] at h
      cases h
    | ok content =>
      rw [hcontent] at h
      cases h
      cases content with
      | error failure => rfl
      | ok content => cases hf

/-- A line with a header is classified by what its body says. -/
theorem classify_line (now : Stamp) (origin : Server) (h : Head) {body : List Char} {c d : Char}
    {content : Except Failure Content} (hbody : Statement.isOneLine body = true)
    (hfirst : body.head? = some c) (hstart : isBlank c = false)
    (hlast : body.getLast? = some d) (hend : d ≠ '\r')
    (hread : Content.ofStatement body (.ofBody body) = .ok content) :
    classify now origin (h.line body) = .ok (.of origin h.stamp content) := by
  obtain ⟨s, rfl⟩ : ∃ s, body = c :: s := by
    cases body with
    | nil => cases hfirst
    | cons b s => exact ⟨s, by simpa using hfirst⟩
  have hnonblank : (trim (c :: s)).isEmpty = false := by
    simpa using trim_ne_nil hstart s
  simp only [classify, timed_line now h hbody hlast hend, hnonblank]
  rw [hread]
  cases content <;> rfl

namespace Tag

def InRange (t : Tag) : Prop :=
  ∀ n, SteamId.account? t.steam = some n → SteamId.base + n < Nat.pow 2 64

/-- The player of a tag, which has the id zero where the steam field has no account number. -/
def owner (t : Tag) : Player :=
  ⟨match SteamId.account? t.steam with
    | some n => ⟨(SteamId.base + n).toUInt64⟩
    | none => .none,
    String.ofList t.name, .ofField (String.ofList t.team), none⟩

theorem player_of_inRange {t : Tag} (h : t.InRange) : t.player = .ok t.owner := by
  unfold player owner SteamId.ofSteam3?
  cases haccount : SteamId.account? t.steam with
  | none => rfl
  | some n =>
    simp only [SteamId.ofAccount, if_pos (h n haccount)]
    rfl

theorem owner_steamId_toNat {t : Tag} (h : t.InRange) :
    t.owner.steamId.word.toNat =
      match SteamId.account? t.steam with
      | some n => SteamId.base + n
      | none => 0 := by
  unfold owner
  cases haccount : SteamId.account? t.steam with
  | none => rfl
  | some n => exact Nat.mod_eq_of_lt (h n haccount)

end Tag
end Moderation.Log
