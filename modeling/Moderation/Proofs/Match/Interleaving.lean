import Moderation.Proofs.Match.Live
import Moderation.Proofs.Table
/-!
Runs of the live matches over the events of many servers, in any interleaving. What a step does
depends only on the earlier steps of its own server, and every match that is opened is either live
or has been sealed once.
-/
namespace Moderation.Match
open Number Time
open scoped List

namespace Book

def run (b : Book) : List Step → Except Overflow (List Transition × Book)
  | [] => .ok ([], b)
  | s :: rest => do
    let (t, b) ← b.handle s.fresh s.now s.event
    let (ts, b) ← b.run rest
    return (t :: ts, b)

def liveIds (b : Book) : List MatchId := b.live.values.map (·.id)

/-- The live matches are those that the steps of each server leave. -/
def Tracks (b : Book) (steps : List Step) : Prop :=
  ∀ server, b.live.get? server = live? (ofServer server steps)

theorem tracks_empty : empty.Tracks [] := fun _ => rfl

inductive Handles (b : Book) (s : Step) : Transition → Book → Prop
  | discards (hlive : b.live.get? s.server = none) (hmap : s.map? = none) :
    Handles b s .discarded b
  | opens {map : String} (hlive : b.live.get? s.server = none) (hmap : s.map? = some map) :
    Handles b s (.created s.fresh)
      ⟨b.live.insert s.server (.start s.fresh s.event.origin map s.now)⟩
  | applies {m : Match} (hlive : b.live.get? s.server = some m) (ht : s.isTerminal = false) :
    Handles b s .applied ⟨b.live.insert s.server (m.absorb [s.event])⟩
  | seals {m : Match} (hlive : b.live.get? s.server = some m) (ht : s.isTerminal = true) :
    Handles b s (.sealed ((m.absorb [s.event]).finish s.now)) ⟨b.live.erase s.server⟩

theorem handle_of_none {b : Book} {s : Step} (hlive : b.live.get? s.server = none) :
    ∃ t b', b.handle s.fresh s.now s.event = .ok (t, b') ∧ Handles b s t b' := by
  have hid : b.live.get? s.event.origin.id = none := hlive
  cases hmap : s.map? with
  | none =>
    have hno : ∀ map, s.event.kind = .mapLoad → s.event.payload ≠ .mapLoad map := by
      intro map hk hp
      simp [Step.map?, hk, hp] at hmap
    have hhandle : b.handle s.fresh s.now s.event = .ok (.discarded, b) := by
      unfold handle
      -- the other case of the match needs `hno`
      simp only [hid]
    exact ⟨_, _, hhandle, .discards hlive hmap⟩
  | some map =>
    have hhandle : b.handle s.fresh s.now s.event = .ok (.created s.fresh,
        ⟨b.live.insert s.server (.start s.fresh s.event.origin map s.now)⟩) := by
      unfold Step.map? at hmap
      split at hmap
      next map' hk hp =>
        cases hmap
        simp [handle, hid, hk, hp, Step.server]
      next => cases hmap
    exact ⟨_, _, hhandle, .opens hlive hmap⟩

theorem handle_of_some {b : Book} {s : Step} {m : Match} (hlive : b.live.get? s.server = some m)
    (hfit : (m.apply s.event).2 ≠ .overflowed .sum) :
    ∃ t b', b.handle s.fresh s.now s.event = .ok (t, b') ∧ Handles b s t b' := by
  have hhandle : b.handle s.fresh s.now s.event = .ok (if s.isTerminal
      then (.sealed ((m.absorb [s.event]).finish s.now), ⟨b.live.erase s.server⟩)
      else (.applied, ⟨b.live.insert s.server (m.absorb [s.event])⟩)) := by
    rw [absorb_singleton hfit]
    unfold Step.server at hlive
    unfold handle Step.isTerminal Step.server
    simp only [hlive]
    rcases hm : m.apply s.event with ⟨m', verdict⟩
    cases verdict with
    | overflowed o =>
      cases o
      rw [hm] at hfit
      exact absurd rfl hfit
    | accepted => exact (apply_ite Except.ok _ _ _).symm
    | rejected cause => exact (apply_ite Except.ok _ _ _).symm
  cases ht : s.isTerminal with
  | true => exact ⟨_, _, by rw [hhandle, ht]; rfl, .seals hlive ht⟩
  | false => exact ⟨_, _, by rw [hhandle, ht]; rfl, .applies hlive ht⟩

/-- One step follows its server, and the other servers stay as they are. -/
theorem Handles.tracks {b b' : Book} {before : List Step} {s : Step} {t : Transition}
    (h : Handles b s t b') (hb : b.Tracks before) :
    t = transition (ofServer s.server before) s ∧ b'.Tracks (before ++ [s]) := by
  have hown := hb s.server
  have others : ∀ server, s.server ≠ server →
      b.live.get? server = live? (ofServer server (before ++ [s])) := by
    intro server hne
    rw [ofServer_concat_ne hne, hb server]
  cases h with
  | discards hlive hmap =>
    rw [hlive] at hown
    refine ⟨by simp [transition, ← hown, hmap], fun server => ?_⟩
    by_cases hs : s.server = server
    · subst hs
      rw [ofServer_concat_self, live?_concat_of_none hown.symm, hlive, Step.opened?, hmap]
      rfl
    · exact others server hs
  | @opens map hlive hmap =>
    rw [hlive] at hown
    refine ⟨by simp [transition, ← hown, hmap], fun server => ?_⟩
    rw [Table.get?_insert]
    by_cases hs : s.server = server
    · subst hs
      rw [if_pos rfl, ofServer_concat_self, live?_concat_of_none hown.symm, Step.opened?, hmap]
      rfl
    · rw [if_neg hs, others server hs]
  | @applies m hlive ht =>
    rw [hlive] at hown
    refine ⟨by simp [transition, ← hown, ht], fun server => ?_⟩
    rw [Table.get?_insert]
    by_cases hs : s.server = server
    · subst hs
      rw [if_pos rfl, ofServer_concat_self, live?_concat_of_some hown.symm ht]
    · rw [if_neg hs, others server hs]
  | @seals m hlive ht =>
    rw [hlive] at hown
    refine ⟨by simp [transition, ← hown, ht], fun server => ?_⟩
    rw [Table.get?_erase]
    by_cases hs : s.server = server
    · subst hs
      rw [if_pos rfl, ofServer_concat_self, live?_concat_terminal _ ht]
    · rw [if_neg hs, others server hs]

theorem liveIds_insert (b : Book) (server : Int) (m : Match) :
    (liveIds ⟨b.live.insert server m⟩).Perm (m.id :: liveIds ⟨b.live.erase server⟩) := by
  have h := (b.live.perm_insert server m).map (·.2.id)
  simpa [liveIds, Table.values, Function.comp_def] using h

theorem liveIds_erase {b : Book} {server : Int} {m : Match} (h : b.live.get? server = some m) :
    b.liveIds.Perm (m.id :: liveIds ⟨b.live.erase server⟩) := by
  have h := (Table.perm_erase h).map (·.2.id)
  simpa [liveIds, Table.values, Function.comp_def] using h

/-- A match that is created is live from then on until it is sealed. -/
theorem Handles.ids {b b' : Book} {s : Step} {t : Transition} (h : Handles b s t b') :
    (createdIds [t] ++ b.liveIds).Perm (sealedIds [t] ++ b'.liveIds) := by
  cases h with
  | discards hlive hmap => exact List.Perm.refl _
  | @opens map hlive hmap =>
    have hi := liveIds_insert b s.server (.start s.fresh s.event.origin map s.now)
    rw [Table.erase_eq_self hlive] at hi
    exact hi.symm
  | @applies m hlive ht =>
    have hi := liveIds_insert b s.server (m.absorb [s.event])
    rw [(sameMatch_absorb m [s.event]).id] at hi
    exact (liveIds_erase hlive).trans hi.symm
  | @seals m hlive ht =>
    have he := liveIds_erase hlive
    rw [← (sameMatch_absorb m [s.event]).id] at he
    exact he

theorem run_tracks {b : Book} {before steps : List Step} (hb : b.Tracks before)
    (hfit : Fits (before ++ steps)) :
    ∃ b', b.run steps = .ok (transitions before steps, b') ∧ b'.Tracks (before ++ steps) ∧
      (createdIds (transitions before steps) ++ b.liveIds).Perm
        (sealedIds (transitions before steps) ++ b'.liveIds) := by
  induction steps generalizing b before with
  | nil => exact ⟨b, rfl, by simpa using hb, List.Perm.refl _⟩
  | cons s rest ih =>
    have hstep : ∃ t b₁, b.handle s.fresh s.now s.event = .ok (t, b₁) ∧ Handles b s t b₁ := by
      cases hlive : b.live.get? s.server with
      | none => exact handle_of_none hlive
      | some m =>
        refine handle_of_some hlive (hfit before s rest rfl m ?_)
        rw [← hb s.server, hlive]
    obtain ⟨t, b₁, hhandle, hs⟩ := hstep
    obtain ⟨rfl, hb₁⟩ := hs.tracks hb
    have hi := hs.ids
    have happ : before ++ s :: rest = before ++ [s] ++ rest := by simp
    rw [happ] at hfit ⊢
    obtain ⟨b₂, hrest, hb₂, hids⟩ := ih hb₁ hfit
    refine ⟨b₂, ?_, hb₂, ?_⟩
    · rw [run, hhandle]
      change (b₁.run rest >>= fun x => pure (_ :: x.1, x.2)) = _
      rw [hrest]
      rfl
    · -- the ids of this step come before those of the rest in both lists
      set c := transition (ofServer s.server before) s
      set ts := transitions (before ++ [s]) rest
      have hc : createdIds (c :: ts) = createdIds [c] ++ createdIds ts :=
        List.filterMap_append (l := [c]) ..
      have hd : sealedIds (c :: ts) = sealedIds [c] ++ sealedIds ts := by
        simp [sealedIds, List.filterMap_cons]
        cases c.sealed? <;> rfl
      calc
        createdIds (c :: ts) ++ b.liveIds
          = createdIds [c] ++ (createdIds ts ++ b.liveIds) := by rw [hc, List.append_assoc]
        _ ~ createdIds ts ++ (createdIds [c] ++ b.liveIds) := List.perm_append_comm_assoc ..
        _ ~ createdIds ts ++ (sealedIds [c] ++ b₁.liveIds) := hi.append_left _
        _ ~ sealedIds [c] ++ (createdIds ts ++ b₁.liveIds) := List.perm_append_comm_assoc ..
        _ ~ sealedIds [c] ++ (sealedIds ts ++ b₂.liveIds) := hids.append_left _
        _ = sealedIds (c :: ts) ++ b₂.liveIds := by rw [hd, List.append_assoc]

theorem run_empty {steps : List Step} (hfit : Fits steps) :
    ∃ b, empty.run steps = .ok (transitions [] steps, b) ∧ b.Tracks steps ∧
      createdIds (transitions [] steps) ~ sealedIds (transitions [] steps) ++ b.liveIds := by
  have hids := run_tracks tracks_empty hfit
  rwa [show empty.liveIds = [] from rfl, List.append_nil] at hids

/-- A run over the events of many servers in which no total overflows. Every server has the
transitions of its own steps alone, each decided by the steps before it. A sealed match is the one
its server opened last, with the accepted events since; ids are used once if they are given once. -/
theorem run_interleaved {steps : List Step} (hfit : Fits steps) :
    ∃ ts b, empty.run steps = .ok (ts, b) ∧ ts.length = steps.length ∧
      (∀ server, b.live.get? server = live? (ofServer server steps)) ∧
      (∀ server, ∃ alone, empty.run (ofServer server steps) =
        .ok (transitionsOf server steps ts, alone)) ∧
      (∀ before s after, steps = before ++ s :: after →
        ts[before.length]? = some (transition (ofServer s.server before) s)) ∧
      (∀ before s after result, steps = before ++ s :: after →
        ts[before.length]? = some (.sealed result) →
        s.isTerminal = true ∧ live? (ofServer s.server (before ++ [s])) = none ∧
        ∃ pre o since map, before = pre ++ o :: since ∧ o.server = s.server ∧
          o.map? = some map ∧ ts[pre.length]? = some (.created o.fresh) ∧
          (∀ x ∈ ofServer s.server since, x.isTerminal = false) ∧
          result.id = o.fresh ∧ result.server = o.event.origin ∧ result.createdAt = o.now ∧
          result.sealedAt = s.now ∧
          ∃ m, m = (start o.fresh o.event.origin map o.now).absorb
              ((ofServer s.server (since ++ [s])).map (·.event)) ∧
            result.map = m.map ∧ result.rounds = m.rounds ∧ result.teams = m.teams.entries ∧
            result.players = m.players.entries) ∧
      createdIds ts ~ sealedIds ts ++ b.liveIds ∧
      ((createdIds ts).Nodup → (sealedIds ts ++ b.liveIds).Nodup) := by
  obtain ⟨b, hrun, hb, hids⟩ := run_empty hfit
  have hget : ∀ before s after, steps = before ++ s :: after →
      (transitions [] steps)[before.length]? =
        some (transition (ofServer s.server before) s) := by
    rintro before s after rfl
    exact getElem?_transitions before s after
  refine ⟨transitions [] steps, b, hrun, length_transitions [] steps, hb, fun server => ?_, hget,
    fun before s after result heq hseal => ?_, hids, fun h => hids.nodup_iff.1 h⟩
  · obtain ⟨alone, halone, -, -⟩ := run_empty (hfit.ofServer server)
    exact ⟨alone, by rw [halone, transitionsOf_transitions]; rfl⟩
  · rw [hget before s after heq] at hseal
    obtain ⟨ht, pre', o, since', map, hown, hpre, hmap, hsince, rfl⟩ :=
      transition_sealed (Option.some.inj hseal)
    obtain ⟨pre, since, rfl, hserver, rfl, rfl⟩ := ofServer_eq_append_cons hown
    refine ⟨ht, ?_, pre, o, since, map, rfl, hserver, hmap, ?_, hsince, ?_⟩
    · rw [ofServer_concat_self, live?_concat_terminal _ ht]
    · rw [hget pre o (since ++ s :: after) (by simp [heq]), hserver, transition, hpre]
      simp [hmap]
    · rw [← ofServer_concat_self]
      have hsame := sameMatch_absorb (start o.fresh o.event.origin map o.now)
        ((ofServer s.server (since ++ [s])).map (·.event))
      exact ⟨hsame.id, hsame.server, hsame.createdAt, rfl, _, rfl, rfl, rfl, rfl, rfl⟩

/-- Two servers at once: on the first a damage without a player is rejected and a kill counts, the
second ends meanwhile, and the first opens another match after its game is over. -/
def twoServers : List Step :=
  let red : Player := ⟨⟨76561197960265729⟩, "a", .red, none⟩
  let blu : Player := ⟨⟨76561197960265730⟩, "b", .blu, none⟩
  let on (server : Int) (second : Nat) (kind : EventKind) (actor : Option Player)
      (payload : Payload) : Step :=
    ⟨⟨second⟩, ⟨second⟩, ⟨kind, ⟨server, "s"⟩, actor, ⟨second, 0⟩, payload, .empty⟩⟩
  [on 1 0 .mapLoad none (.mapLoad "ctf_2fort"), on 2 1 .mapLoad none (.mapLoad "pl_upward"),
    on 1 2 .damage none (.damage none 5 none), on 2 3 .logStop none .empty,
    on 1 4 .kill (some red) (.kill blu "w"), on 1 5 .gameOver none (.gameOver "time"),
    on 1 6 .say (some red) (.say "gg"), on 1 7 .mapLoad none (.mapLoad "ctf_2fort")]

theorem run_interleaved_twoServers :
    Fits twoServers ∧ ∃ ts b, empty.run twoServers = .ok (ts, b) ∧
      (∀ server, ∃ alone, empty.run (ofServer server twoServers) =
        .ok (transitionsOf server twoServers ts, alone)) ∧
      (sealedIds ts ++ b.liveIds).Nodup := by
  have hfit : Fits twoServers := by decide
  obtain ⟨ts, b, hrun, -, -, halone, -, -, -, hids⟩ := run_interleaved hfit
  refine ⟨hfit, ts, b, hrun, halone, hids ?_⟩
  have hts : (empty.run twoServers).map (createdIds ·.1) = .ok [⟨0⟩, ⟨1⟩, ⟨7⟩] := by decide
  rw [hrun] at hts
  have hcreated : createdIds ts = [⟨0⟩, ⟨1⟩, ⟨7⟩] := Except.ok.inj hts
  rw [hcreated]
  decide

end Book
end Moderation.Match
