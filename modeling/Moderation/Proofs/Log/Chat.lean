import Moderation.Proofs.Log.Line
import Moderation.Proofs.Log.Tag
/-!
Chat lines. Neither a name nor a message can pass for something else: the speaker of a line is the
player whose tag it starts with, and the message is all that is said.
-/
namespace Moderation.Log
open Text Time

def chat (t : Tag) (toTeam : Bool) (message : List Char) : List Char :=
  t.text ++ ((if toTeam then " say_team " else " say ").toList ++ ('"' :: message ++ ['"']))

namespace Statement

theorem closing?_quoted {m : List Char} (h : '\n' ∉ m) : closing? ('"' :: m ++ ['"']) = some m := by
  have hstart : dropPrefix? ['"'] ('"' :: m ++ ['"']) = some (m ++ ['"']) :=
    dropPrefix?_append ['"'] (m ++ ['"'])
  have hend : dropSuffix? ['"'] (m ++ ['"']) = some m := dropSuffix?_append ['"'] m
  have hline : isOneLine m = true := isOneLine_iff.2 h
  simp only [closing?, hstart, hend, hline, if_true, Option.bind_eq_bind, Option.bind_some]

theorem said?_chat {t : Tag} (ht : t.Plain) (toTeam : Bool) {m : List Char} (hm : '\n' ∉ m) :
    said? (chat t toTeam m) = some (.said t toTeam m) := by
  refine tagged?_of_some ht ?_
  cases toTeam with
  | false =>
    simp only [Bool.false_eq_true, if_false, dropPrefix?_append, Option.bind_some,
      closing?_quoted hm]
  | true =>
    have hsay : dropPrefix? " say ".toList (" say_team ".toList ++ ('"' :: m ++ ['"'])) = none :=
      rfl
    simp only [if_true, hsay, Option.bind_none, dropPrefix?_append, Option.bind_some,
      closing?_quoted hm, Option.map_some]

end Statement

theorem one_line_chat {t : Tag} (ht : t.Plain) (toTeam : Bool) {m : List Char} (hm : '\n' ∉ m) :
    '\n' ∉ chat t toTeam m := by
  have hverb : '\n' ∉ (if toTeam then " say_team " else " say ").toList := by
    cases toTeam <;> decide
  simp [chat, ht.one_line, hverb, hm]

/-- A chat line gives its own speaker and message, whatever these are made to look like. -/
theorem classify_chat (now : Stamp) (origin : Server) (h : Head) {t : Tag} (ht : t.Plain)
    (hid : t.InRange) (toTeam : Bool) {message : List Char} (hm : '\n' ∉ message) :
    classify now origin (h.line (chat t toTeam message)) =
      .ok ⟨⟨if toTeam then .sayTeam else .say, origin, some t.owner, h.stamp,
        .say (String.ofList message), .empty⟩, none⟩ ∧
    t.owner.steamId.word.toNat =
      match SteamId.account? t.steam with
      | some n => SteamId.base + n
      | none => 0 := by
  have hline := Statement.isOneLine_iff.2 (one_line_chat ht toTeam hm)
  have hbody : Statement.ofBody (chat t toTeam message) = .said t toTeam message := by
    rw [Statement.ofBody, Statement.said?_chat ht toTeam hm]
    rfl
  have hread : Content.ofStatement (chat t toTeam message) (.ofBody (chat t toTeam message)) =
      .ok (.ok ⟨if toTeam then .sayTeam else .say, t.owner, .say (String.ofList message),
        .empty⟩) := by
    rw [hbody, Content.ofStatement, Tag.player_of_inRange hid]
    rfl
  have hclassify := classify_line now origin h (c := '"') (d := '"') hline
    (by simp [chat, t.text_eq]) (by decide) (by simp [chat, List.getLast?_cons]) (by decide) hread
  exact ⟨hclassify, Tag.owner_steamId_toNat hid⟩

def sampleHead : Head :=
  ⟨2024, 1, 2, 3, 4, 5, by decide, by decide, by decide, by decide, by decide⟩

def sampleTag : Tag := ⟨"a<1><[U:1:9]><Red>".toList, ['2'], "[U:1:1]".toList, "Blue".toList⟩

theorem text_sampleHead : sampleHead.text = "01/02/2024 - 03:04:05".toList := by
  simp [sampleHead, Head.text, padded, digits, digit]

theorem plain_sampleTag : sampleTag.Plain :=
  ⟨⟨by decide, List.all_eq_true.1 (by decide), by decide, by decide⟩, by decide, by decide,
    by decide, by decide, by decide⟩

theorem inRange_sampleTag : sampleTag.InRange := by
  intro n hn
  have hone : SteamId.account? sampleTag.steam = some 1 := by decide
  rw [hone] at hn
  cases hn
  decide

theorem owner_sampleTag :
    sampleTag.owner = ⟨⟨76561197960265729⟩, "a<1><[U:1:9]><Red>", .blu, none⟩ := by
  decide

theorem stamp_sampleHead : sampleHead.stamp = ⟨1704164645, 0⟩ := by
  decide

/-- Both the name and the message look like more than they are. -/
theorem classify_chat_imitation :
    sampleTag.Plain ∧ sampleTag.InRange ∧
    classify ⟨0, 0⟩ ⟨1, "s"⟩ ("L 01/02/2024 - 03:04:05: " ++
        "\"a<1><[U:1:9]><Red><2><[U:1:1]><Blue>\" say_team \"gg\" say \"<1><[U:1:9]><Red>\"\"") =
      .ok ⟨⟨.sayTeam, ⟨1, "s"⟩, some ⟨⟨76561197960265729⟩, "a<1><[U:1:9]><Red>", .blu, none⟩,
        ⟨1704164645, 0⟩, .say "gg\" say \"<1><[U:1:9]><Red>\"", .empty⟩, none⟩ := by
  have hline : "L 01/02/2024 - 03:04:05: " ++
      "\"a<1><[U:1:9]><Red><2><[U:1:1]><Blue>\" say_team \"gg\" say \"<1><[U:1:9]><Red>\"\"" =
      sampleHead.line (chat sampleTag true "gg\" say \"<1><[U:1:9]><Red>\"".toList) := by
    refine String.toList_inj.1 ?_
    rw [Head.line, text_sampleHead, String.toList_ofList, String.toList_append]
    rfl
  have hmessage : '\n' ∉ "gg\" say \"<1><[U:1:9]><Red>\"".toList := by decide
  obtain ⟨hread, -⟩ := classify_chat ⟨0, 0⟩ ⟨1, "s"⟩ sampleHead plain_sampleTag
    inRange_sampleTag true hmessage
  rw [owner_sampleTag, stamp_sampleHead, String.ofList_toList, if_pos rfl, ← hline] at hread
  exact ⟨plain_sampleTag, inRange_sampleTag, hread⟩

end Moderation.Log
