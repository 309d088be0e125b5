import Moderation.History
import Moderation.Proofs.Event.SteamId
import Moderation.Proofs.Log.Chat
/-!
Utterances: what a player says at some time, the line that reports it, and the record that is made
of it. A line is read as the utterance that it was written for, and nothing but an empty message
goes without a record.
-/
namespace Moderation.Log
open Text Time

structure Utterance where
  head : Head
  name : String
  number : List Char
  speaker : SteamId
  team : List Char
  toTeam : Bool
  message : String
  name_plain : '"' ∉ name.toList ∧ '\n' ∉ name.toList
  number_decimal : ∀ c ∈ number, isDecimalDigit c = true
  speaker_valid : speaker.Valid
  team_plain : '"' ∉ team ∧ '\n' ∉ team ∧ '>' ∉ team
  message_line : '\n' ∉ message.toList

theorem owner_of_account {t : Tag} {id : SteamId} {n : Nat} (hid : t.InRange)
    (hn : SteamId.account? t.steam = some n) (hsum : SteamId.base + n = id.word.toNat) :
    t.owner = ⟨id, String.ofList t.name, .ofField (String.ofList t.team), none⟩ := by
  have hword := Tag.owner_steamId_toNat hid
  rw [hn] at hword
  have hsteam : t.owner.steamId = id := SteamId.eq_of_toNat (hword.trans hsum)
  rw [← hsteam]
  rfl

namespace Utterance
variable (u : Utterance)

def tag : Tag := ⟨u.name.toList, u.number, u.speaker.steam3.toList, u.team⟩

def line : String := u.head.line (chat u.tag u.toTeam u.message.toList)

def kind : EventKind := if u.toTeam then .sayTeam else .say

def event (server : Server) : Event :=
  ⟨u.kind, server, some ⟨u.speaker, u.name, .ofField (String.ofList u.team), none⟩, u.head.stamp,
    .say u.message, .empty⟩

def record? (server : Server) : Option ChatRecord :=
  if u.message = "" then none
  else some ⟨u.speaker, server.id, u.name, u.message, u.toTeam, u.head.stamp⟩

theorem plain_tag : u.tag.Plain where
  name := u.name_plain.2
  number := u.number_decimal
  steam := SteamId.not_mem_steam3 (by decide) (by decide) u.speaker
  team := u.team_plain.2.2
  name_quote := u.name_plain.1
  steam_quote := SteamId.not_mem_steam3 (by decide) (by decide) u.speaker
  steam_line := SteamId.not_mem_steam3 (by decide) (by decide) u.speaker
  team_quote := u.team_plain.1
  team_line := u.team_plain.2.1

theorem inRange_tag : u.tag.InRange := by
  intro n hn
  rw [tag, SteamId.account?_steam3 u.speaker_valid, Option.some.injEq] at hn
  rw [← hn, SteamId.base_add_account u.speaker_valid]
  exact u.speaker.word.toNat_lt

theorem owner_tag :
    u.tag.owner = ⟨u.speaker, u.name, .ofField (String.ofList u.team), none⟩ := by
  have howner := owner_of_account u.inRange_tag (SteamId.account?_steam3 u.speaker_valid)
    (SteamId.base_add_account u.speaker_valid)
  rw [tag, String.ofList_toList] at howner
  exact howner

theorem isChat_kind : u.kind.isChat = true := by
  unfold kind
  cases u.toTeam <;> rfl

/-- The line of an utterance is read as its event, whenever that happens. -/
theorem classify_line (now : Stamp) (server : Server) :
    classify now server u.line = .ok ⟨u.event server, none⟩ := by
  have hplain := u.plain_tag
  have hbody : Statement.ofBody (chat u.tag u.toTeam u.message.toList) =
      .said u.tag u.toTeam u.message.toList := by
    rw [Statement.ofBody, Statement.said?_chat hplain u.toTeam u.message_line]
    rfl
  have hread : Content.ofStatement (chat u.tag u.toTeam u.message.toList)
      (.ofBody (chat u.tag u.toTeam u.message.toList)) =
        .ok (.ok ⟨u.kind, u.tag.owner, .say u.message, .empty⟩) := by
    rw [hbody, Content.ofStatement, Tag.player_of_inRange u.inRange_tag, String.ofList_toList]
    rfl
  have hline := Statement.isOneLine_iff.2 (one_line_chat hplain u.toTeam u.message_line)
  have hclassify := Log.classify_line now server u.head (c := '"') (d := '"') hline
    (by simp [chat, u.tag.text_eq]) (by decide) (by simp [chat, List.getLast?_cons]) (by decide)
    hread
  rw [owner_tag] at hclassify
  exact hclassify

theorem chatRecord?_event (server : Server) :
    History.chatRecord? (u.event server) = u.record? server := by
  unfold History.chatRecord? record? event kind Event.message?
  by_cases hm : u.message = ""
  · cases u.toTeam <;> simp [EventKind.isChat, hm]
  · cases u.toTeam <;> simp [EventKind.isChat, hm]

end Utterance
end Moderation.Log
