import Moderation.Proofs.Match.Summary
import Moderation.Proofs.Warning.Reaction
/-!
Notices are complete. No notice has as many fields as there is room for. The announcement of a match
shows every total, and the notice of an offence lacks a field only if there is nothing to show.
-/
namespace Moderation
open Notice Number Text Time Worker

/-- An embed shows every field that has a value, up to the length of a value. -/
structure Notice.Embed.Shows (e : Embed) (fs : List Field) : Prop where
  fields : e.fields =
    (fs.filter (·.value ≠ "")).map fun f => { f with value := truncate f.value 1024 }
  whole : ∀ f ∈ fs, f.value ≠ "" → f.value.length ≤ 1024 → f ∈ e.fields

theorem Notice.Embed.shows_pushAll {e : Embed} {fs : List Field} (he : e.fields = [])
    (hroom : fs.length ≤ 25) (hnames : ∀ f ∈ fs, f.name ≠ "" ∧ f.name.length ≤ 256) :
    (e.pushAll fs).Shows fs := by
  have hkept : fs.filter (·.HasTexts) = fs.filter (·.value ≠ "") :=
    List.filter_congr fun f hf => by simp [Field.HasTexts, (hnames f hf).1]
  have hfields : (e.pushAll fs).fields =
      (fs.filter (·.value ≠ "")).map fun f => { f with value := truncate f.value 1024 } := by
    rw [fields_pushAll_of_room (by rwa [he, List.length_nil, Nat.zero_add]), he, List.nil_append,
      hkept]
    refine List.map_congr_left fun f hf => ?_
    rw [Field.cut, truncate_of_length_le (hnames f (List.mem_of_mem_filter hf)).2]
  refine ⟨hfields, fun f hf hne hlen => ?_⟩
  rw [hfields, List.mem_map]
  refine ⟨f, List.mem_filter.2 ⟨hf, decide_eq_true hne⟩, ?_⟩
  rw [truncate_of_length_le hlen]

namespace Warning

/-- How long an action lasts that begins at a time, and the minute in which it ends. -/
def expiry (length : Option Span) (now : Instant) : String × String :=
  match length.bind now.add? with
  | some t => ((t.since now).coarse, t.toMinute)
  | none => ("Permanent", "Permanent")

def Outcome.escalationFields (p : Policy) (player : Player) (now : Instant) : Outcome → List Field
  | .warned _ => []
  | .escalated _ => [⟨"Name", player.name, false⟩, ⟨"Expires In", (expiry p.length now).1, false⟩,
    ⟨"Expires At", (expiry p.length now).2, false⟩]

def Outcome.fields (out : Outcome) (p : Policy) (o : Offence) (origin : Server) (now : Instant) :
    List Field :=
  [⟨"Matched", o.found.matched, false⟩, ⟨"Message", o.message, false⟩] ++
    out.escalationFields p o.player now ++
    [⟨"Pattern", o.found.pattern, false⟩, ⟨"STEAM", o.player.steamId.steam2, true⟩,
      ⟨"STEAM3", o.player.steamId.steam3, true⟩, ⟨"SID64", o.player.steamId.text, true⟩,
      ⟨"Filter ID", showInt o.found.filterId, true⟩, ⟨"Server", origin.name, true⟩]

def Outcome.names : Outcome → List String
  | .warned _ => ["Matched", "Message", "Pattern", "STEAM", "STEAM3", "SID64", "Filter ID",
    "Server"]
  | .escalated _ => ["Matched", "Message", "Name", "Expires In", "Expires At", "Pattern", "STEAM",
    "STEAM3", "SID64", "Filter ID", "Server"]

def Outcome.heading (out : Outcome) (p : Policy) (o : Offence) (dated : Instant) : Embed :=
  let title := "Language Warning (#" ++ showNat out.count ++ "/" ++ showNat p.limit ++ ")"
  (Embed.titled title .orange dated).link (p.externalUrl ++ "/profiles/" ++ o.player.steamId.text)

namespace Outcome
variable {p : Policy} {o : Offence} {origin : Server} {now dated : Instant}

theorem map_name_fields (out : Outcome) :
    (out.fields p o origin now).map (·.name) = out.names := by
  cases out <;> rfl

theorem length_fields_le (out : Outcome) : (out.fields p o origin now).length ≤ 25 := by
  have hnames : out.names.length ≤ 25 := by
    cases out <;> exact Nat.le_of_ble_eq_true rfl
  rwa [← out.map_name_fields (p := p) (o := o), List.length_map] at hnames

theorem name_of_mem_fields {out : Outcome} :
    ∀ f ∈ out.fields p o origin now, f.name ≠ "" ∧ f.name.length ≤ 256 := by
  have hnames : ∀ name ∈ out.names, name ≠ "" ∧ name.length ≤ 256 := by
    cases out with
    | warned n =>
      change ∀ name ∈ names (.warned 0), _
      decide
    | escalated ws =>
      change ∀ name ∈ names (.escalated []), _
      decide
  intro f hf
  refine hnames f.name ?_
  rw [← out.map_name_fields]
  exact List.mem_map_of_mem hf

theorem addEscalation_eq (origin : Server) (e : Embed) (ws : List Warning) :
    addEscalation e (o.request p origin now) o.player now =
      e.pushAll ((escalated ws).escalationFields p o.player now) := by
  have hends : (o.request p origin now).expiresAt = p.length.bind now.add? := rfl
  unfold addEscalation escalationFields expiry
  rw [hends]
  cases p.length.bind now.add? <;> rfl

theorem embed_notice (out : Outcome) :
    (out.notice p o origin now dated).embed =
      (out.heading p o dated).pushAll (out.fields p o origin now) := by
  rw [fields, Embed.pushAll_append, Embed.pushAll_append]
  cases out with
  | warned n =>
    simp only [notice, heading, escalationFields, Embed.pushAll, List.foldl_cons, List.foldl_nil,
      Embed.add, Embed.addInline, Embed.addSteamId]
  | escalated ws =>
    rw [← addEscalation_eq origin]
    simp only [notice, heading, Embed.pushAll, List.foldl_cons, List.foldl_nil, Embed.add,
      Embed.addInline, Embed.addSteamId]

theorem shows_notice (out : Outcome) :
    (out.notice p o origin now dated).embed.Shows (out.fields p o origin now) := by
  rw [embed_notice]
  exact Embed.shows_pushAll rfl out.length_fields_le name_of_mem_fields

end Outcome

structure Desk.Announces (d d' : Desk) (e : Event) (now : Instant) (out : Outcome) (o : Offence)
    (jobs : List Job) (notice : Notice) : Prop where
  actor : e.actor = some o.player
  speaks : e.payload = .say o.message
  finds : find? d.engine.filters o.message = some o.found
  offers : d'.office = (d.office.placeAll jobs).post notice
  channel : notice.channel = .modLog
  shows : notice.embed.Shows (out.fields d.engine.policy o e.origin now)

theorem Desk.exists_announces {d d' : Desk} {e : Event} {now dated : Instant} {out : Outcome}
    (h : d.handle e now dated = (some out, d')) :
    ∃ o jobs notice, d.Announces d' e now out o jobs notice := by
  cases ho : d.engine.offence? e with
  | none =>
    rw [handle_of_none ho] at h
    cases congrArg Prod.fst h
  | some o =>
    obtain ⟨-, hactor, -, hsay, -, hfound⟩ := offence?_eq_some ho
    rw [handle_of_some ho] at h
    cases h
    exact ⟨o, _, _, hactor, hsay, hfound, rfl, rfl, Outcome.shows_notice _⟩

end Warning

open Match Warning

/-- No notice lacks a field for want of room. The announcement of a match, sealed after whatever
events, on its own or by a book, shows three totals of each team, the points of both sides and the
time; the notice of an offence shows all its fields that are not empty. -/
theorem notices_complete (id : MatchId) (server : Server) (map : String)
    (createdAt sealedAt : Instant) (es : List Event) (steps : List Step) (d : Desk) (e : Event)
    (now dated : Instant) :
    (((start id server map createdAt).after es).finish sealedAt).IsSummarized ∧
    (∀ result ∈ Book.empty.sealedBy steps, result.IsSummarized) ∧
    (∀ n : Int, integer? (showInt n).toList = some n) ∧
    ∀ out d', d.handle e now dated = (some out, d') →
      ∃ o jobs notice, d.Announces d' e now out o jobs notice := by
  refine ⟨?_, fun result hresult => ?_, fun n => ?_, fun out d' h => Desk.exists_announces h⟩
  · exact isSummarized_finish ((inRange_start id server map createdAt).after es) sealedAt
  · obtain ⟨m, now, hm, rfl⟩ := Book.inRange_of_mem_sealedBy hresult
    exact isSummarized_finish hm now
  · rw [toList_showInt, integer?_decimal]

def stepsAtOnce (events : List (EventKind × Option Player × Payload)) : List Step :=
  events.map fun (kind, actor, payload) =>
    ⟨⟨1⟩, ⟨0⟩, ⟨kind, ⟨1, "s"⟩, actor, ⟨0, 0⟩, payload, .empty⟩⟩

def shortGame : List Step :=
  stepsAtOnce [(.mapLoad, none, .mapLoad "ctf_2fort"),
    (.damage, some ⟨⟨76561197960265729⟩, "a", .red, none⟩, .damage none 7 none),
    (.roundEnd, none, .roundEnd (some .red) ⟨1, 0⟩), (.gameOver, none, .gameOver "limit")]

def weekly : Setup :=
  ⟨⟨0, .zero, .gag, some (.ofDays 7), .none, ""⟩, [⟨7, "spam", .words ["spam".toList]⟩],
    .ofStore .empty .zero, 1, 1, 1⟩

def namelessOffence : Event :=
  ⟨.say, ⟨1, "s"⟩, some ⟨⟨76561197960265729⟩, "", .red, none⟩, ⟨0, 0⟩, .say "more spam", .empty⟩

theorem notices_complete_shortGame :
    (∃ result ∈ Book.empty.sealedBy shortGame, ∃ e, result.embed ⟨0⟩ ⟨0⟩ "" = .ok e ∧
      e.fields.map (fun f => (f.name, f.value)) = [("RED Kills", "0"), ("RED Damage", "7"),
        ("RED Ubers/Drops", "0/0"), ("Red Score", "1"), ("Blu Score", "0"),
        ("Duration", "0.00 Minutes")]) ∧
    let d := (Scene.start weekly).desk
    ∃ out d', d.handle namelessOffence ⟨0⟩ ⟨0⟩ = (some out, d') ∧
      ∃ o jobs notice, d.Announces d' namelessOffence ⟨0⟩ out o jobs notice ∧
        notice.embed.fields.map (fun f => (f.name, f.value)) =
          [("Matched", "spam"), ("Message", "more spam"), ("Expires In", "7d 0h"),
            ("Expires At", "1970-01-08 00:00"), ("Pattern", "spam"), ("STEAM", "STEAM_0:1:0"),
            ("STEAM3", "[U:1:1]"), ("SID64", "76561197960265729"), ("Filter ID", "7"),
            ("Server", "s")] := by
  obtain ⟨-, hmatches, -, hoffences⟩ := notices_complete ⟨1⟩ ⟨1, "s"⟩ "" ⟨0⟩ ⟨0⟩ [] shortGame
    (Scene.start weekly).desk namelessOffence ⟨0⟩ ⟨0⟩
  constructor
  · have hgame : (Book.empty.sealedBy shortGame).map (fun s => (s.rounds, s.teams, s.createdAt)) =
        [([⟨none, ⟨0, 0⟩, some .red, ⟨1, 0⟩⟩], [(.red, ⟨0, 0, 7, 0, 0, 0⟩)], ⟨0⟩)] := by
      decide +kernel
    obtain ⟨s, hs, heq⟩ := List.map_eq_singleton_iff.1 hgame
    have hmem : s ∈ Book.empty.sealedBy shortGame := by simp [hs]
    have hsummarized := hmatches s hmem
    obtain ⟨hrounds, hteams, hcreated⟩ : _ ∧ _ ∧ _ := by simpa using heq
    obtain ⟨e, he⟩ := hsummarized.natural (by rw [hrounds]; decide) ⟨0⟩ ⟨0⟩ ""
    refine ⟨s, hmem, e, he, ?_⟩
    rw [hsummarized.complete _ _ _ e he, Sealed.fields, Sealed.elapsed, hrounds, hteams, hcreated]
    decide +kernel
  · intro d
    have hescalates : (d.handle namelessOffence ⟨0⟩ ⟨0⟩).1 =
        some (.escalated [⟨.language, "more spam", "spam", 7, "spam", ⟨0⟩⟩]) := by
      decide +kernel
    rcases hhandle : d.handle namelessOffence ⟨0⟩ ⟨0⟩ with ⟨out, d'⟩
    rw [hhandle] at hescalates
    cases hescalates
    obtain ⟨o, jobs, notice, hannounces⟩ := hoffences _ _ hhandle
    refine ⟨_, d', rfl, o, jobs, notice, hannounces, ?_⟩
    obtain ⟨player, message, found⟩ := o
    cases hannounces.actor
    cases hannounces.speaks
    have hfinds : find? weekly.filters "more spam" = some ⟨7, "spam", "spam"⟩ := by
      decide +kernel
    cases hannounces.finds.symm.trans hfinds
    rw [hannounces.shows.fields]
    decide +kernel

end Moderation
