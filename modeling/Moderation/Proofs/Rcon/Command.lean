import Mathlib.Data.List.Forall2
import Moderation.Proofs.Event.SteamId
import Moderation.Rcon.Command
/-!
Commands that carry a text. Whatever the text is, the command is a single line with four quotes,
which stand where the command puts them, so that player and text are told by the line.
-/
namespace Moderation.Rcon
open Text

inductive Verb where
  | kick
  | psay

namespace Verb

def name : Verb → String
  | kick => "sm_kick"
  | psay => "sm_psay"

def command : Verb → SteamId → String → Command
  | kick => .kick
  | psay => .psay

end Verb

inductive Cleans : Char → Char → Prop
  | quote : Cleans '"' '\''
  | stop {c : Char} (h : c ∈ ['\n', '\r', ';']) : Cleans c ' '
  | other {c : Char} (h : c ∉ ['"', '\n', '\r', ';']) : Cleans c c

/-- A character that ends neither an argument nor a command. -/
def Harmless (c : Char) : Prop := c ∉ ['"', '\n', '\r', ';']

instance (c : Char) : Decidable (Harmless c) := inferInstanceAs (Decidable (_ ∉ _))

theorem cleans_sanitizeChar (c : Char) : Cleans c (sanitizeChar c) := by
  unfold sanitizeChar
  split
  next hquote =>
    rw [hquote]
    exact .quote
  next hquote =>
    split
    next hstop => exact .stop (by simpa using hstop)
    next hother => exact .other (by simpa [hquote] using hother)

theorem Cleans.harmless {c d : Char} (h : Cleans c d) : Harmless d := by
  cases h with
  | quote => decide
  | stop => decide
  | other h => exact h

theorem harmless_of_isDigit {c : Char} (h : isDigit c = true) : Harmless c := by
  intro hmem
  obtain rfl | rfl | rfl | rfl : c = '"' ∨ c = '\n' ∨ c = '\r' ∨ c = ';' := by simpa using hmem
  all_goals exact absurd h (by decide)

theorem toList_sanitize (s : String) : (sanitize s).toList = s.toList.map sanitizeChar :=
  String.toList_ofList

theorem forall₂_cleans (s : String) : List.Forall₂ Cleans s.toList (sanitize s).toList := by
  rw [toList_sanitize, List.forall₂_map_right_iff, List.forall₂_same]
  exact fun c _ => cleans_sanitizeChar c

theorem length_sanitize (s : String) : (sanitize s).length = s.length := by
  rw [← String.length_toList, toList_sanitize, List.length_map, String.length_toList]

theorem harmless_sanitize (s : String) : ∀ c ∈ (sanitize s).toList, Harmless c := by
  rw [toList_sanitize]
  intro d hd
  obtain ⟨c, -, rfl⟩ := List.mem_map.1 hd
  exact (cleans_sanitizeChar c).harmless

/-- A line of a verb and two arguments in quotes, with no other quote and one command only. -/
structure Unbroken (line verb mark said : String) : Prop where
  form : line = verb ++ " \"" ++ mark ++ "\" \"" ++ said ++ "\""
  quotes : line.toList.count '"' = 4
  stops : ∀ c ∈ ['\n', '\r', ';'], c ∉ line.toList
  split : line.toList.splitOn '"' =
    [verb.toList ++ [' '], mark.toList, [' '], said.toList, []]

section
variable {verb mark said : String}

theorem toList_line (verb mark said : String) :
    (verb ++ " \"" ++ mark ++ "\" \"" ++ said ++ "\"").toList =
      verb.toList ++ ' ' :: '"' :: (mark.toList ++ '"' :: ' ' :: '"' :: (said.toList ++ ['"'])) := by
  simp

theorem unbroken_of_harmless (hverb : ∀ c ∈ verb.toList, Harmless c)
    (hmark : ∀ c ∈ mark.toList, Harmless c) (hsaid : ∀ c ∈ said.toList, Harmless c) :
    Unbroken (verb ++ " \"" ++ mark ++ "\" \"" ++ said ++ "\"") verb mark said := by
  have hquote : ¬ Harmless '"' := by decide
  have hverb' : '"' ∉ verb.toList := fun h => hquote (hverb _ h)
  have hmark' : '"' ∉ mark.toList := fun h => hquote (hmark _ h)
  have hsaid' : '"' ∉ said.toList := fun h => hquote (hsaid _ h)
  refine ⟨rfl, ?_, ?_, ?_⟩
  · rw [toList_line]
    simp [List.count_eq_zero.2 hverb', List.count_eq_zero.2 hmark', List.count_eq_zero.2 hsaid']
  · intro c hc hmem
    have hharm : ¬ Harmless c := fun h => h (List.mem_cons_of_mem _ hc)
    have hmarks : c ≠ ' ' ∧ c ≠ '"' := by
      constructor <;> rintro rfl <;> exact absurd hc (by decide)
    rw [toList_line] at hmem
    obtain h | h | h : c ∈ verb.toList ∨ c ∈ mark.toList ∨ c ∈ said.toList := by
      simpa [hmarks] using hmem
    · exact hharm (hverb c h)
    · exact hharm (hmark c h)
    · exact hharm (hsaid c h)
  · have hjoin : ['"'].intercalate [verb.toList ++ [' '], mark.toList, [' '], said.toList, []] =
        (verb ++ " \"" ++ mark ++ "\" \"" ++ said ++ "\"").toList := by
      rw [toList_line]
      simp [List.intercalate]
    rw [← hjoin]
    refine List.splitOn_intercalate '"' ?_ (List.cons_ne_nil _ _)
    simp [hverb', hmark', hsaid']

/-- The arguments are told by the line. -/
theorem Unbroken.inj {line mark' said' : String} (h : Unbroken line verb mark said)
    (h' : Unbroken line verb mark' said') : mark = mark' ∧ said = said' := by
  have hparts := h.split.symm.trans h'.split
  simpa [String.toList_inj] using hparts

theorem quote_append_quote (verb mark said : String) :
    verb ++ " " ++ quote mark ++ " " ++ quote said =
      verb ++ " \"" ++ mark ++ "\" \"" ++ said ++ "\"" := by
  refine String.toList_inj.1 ?_
  simp [quote]

end

def mark (account : Nat) : String := "#[U:1:" ++ showNat account ++ "]"

theorem hash_steam3 (target : SteamId) : "#" ++ target.steam3 = mark target.account := by
  rw [SteamId.steam3, mark, ← String.append_assoc, ← String.append_assoc]
  rfl

theorem toList_mark (account : Nat) :
    (mark account).toList = "#[U:1:".toList ++ digits account ++ [']'] := by
  simp only [mark, showNat, String.toList_append, String.toList_ofList]
  rfl

theorem mark_injective {m n : Nat} (h : mark m = mark n) : m = n := by
  have htext := congrArg String.toList h
  rw [toList_mark, toList_mark] at htext
  exact digits_injective (List.append_cancel_left (List.append_cancel_right htext))

theorem harmless_mark (account : Nat) : ∀ c ∈ (mark account).toList, Harmless c := by
  have hstart : ("#[U:1:".toList.all fun c => decide (Harmless c)) = true := by decide
  rw [toList_mark]
  intro c hc
  obtain (hc | hc) | hc := by simpa only [List.mem_append] using hc
  · exact of_decide_eq_true (List.all_eq_true.1 hstart c hc)
  · exact harmless_of_isDigit ((spells_digits account).isDigit_of_mem c hc)
  · rw [List.mem_singleton.1 hc]
    decide

namespace Verb

theorem harmless_name (v : Verb) : ∀ c ∈ v.name.toList, Harmless c := by
  have hname : (v.name.toList.all fun c => decide (Harmless c)) = true := by
    cases v <;> decide
  exact fun c hc => of_decide_eq_true (List.all_eq_true.1 hname c hc)

theorem text_command (v : Verb) (target : SteamId) (s : String) :
    (v.command target s).text =
      v.name ++ " \"" ++ mark target.account ++ "\" \"" ++ sanitize s ++ "\"" := by
  rw [← quote_append_quote, ← hash_steam3]
  cases v with
  | kick => rfl
  | psay => rfl

theorem unbroken_command (v : Verb) (target : SteamId) (s : String) :
    Unbroken (v.command target s).text v.name (mark target.account) (sanitize s) := by
  rw [text_command]
  exact unbroken_of_harmless v.harmless_name (harmless_mark target.account) (harmless_sanitize s)

/-- A text cannot break out of the command that carries it. The text in the line is as long as the
given one and has other characters only for quotes and for what ends a command. Commands of one verb
are the same only for one account and texts that come to the same. -/
theorem command_exact (v : Verb) (target : SteamId) (s : String) :
    Unbroken (v.command target s).text v.name ("#[U:1:" ++ showNat target.account ++ "]")
      (sanitize s) ∧
    (sanitize s).length = s.length ∧ List.Forall₂ Cleans s.toList (sanitize s).toList ∧
    ∀ target' s', (v.command target' s').text = (v.command target s).text ↔
      target'.account = target.account ∧ sanitize s' = sanitize s := by
  refine ⟨v.unbroken_command target s, length_sanitize s, forall₂_cleans s, fun target' s' => ?_⟩
  constructor
  · intro h
    obtain ⟨hmark, hsaid⟩ := (v.unbroken_command target' s').inj (h ▸ v.unbroken_command target s)
    exact ⟨mark_injective hmark, hsaid⟩
  · rintro ⟨haccount, hsaid⟩
    rw [text_command, text_command, haccount, hsaid]

end Verb
end Moderation.Rcon
