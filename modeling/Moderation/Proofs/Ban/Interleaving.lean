import Mathlib.Data.List.Induction
import Mathlib.Data.List.Nodup
import Moderation.Proofs.Ban.Course
/-!
Requests that are carried out side by side. However their calls interleave and whatever becomes of
each, no two stored bans share a key, and a server is only told what has been stored.
-/
namespace Moderation.Ban
open Rcon Time
open scoped List

def SameMinute (a b : Instant) : Prop :=
  ∃ m : Int, m * 60000000000 ≤ a.nanos ∧ a.nanos < (m + 1) * 60000000000 ∧
    m * 60000000000 ≤ b.nanos ∧ b.nanos < (m + 1) * 60000000000

theorem minute_eq_iff {a b : Instant} (ha : a.Near) (hb : b.Near) :
    a.minute = b.minute ↔ SameMinute a b := by
  simp only [Instant.minute, if_pos ha, if_pos hb, Instant.mk.injEq]
  constructor
  · intro h
    exact ⟨a.nanos / 60000000000, by omega, by omega, by omega, by omega⟩
  · rintro ⟨m, hal, hau, hbl, hbu⟩
    have hm : a.nanos / 60000000000 = m := by omega
    have hm' : b.nanos / 60000000000 = m := by omega
    rw [hm, hm']

/-- What can be said of a request at any time; `bans` are the stored ones. -/
structure Course.Lawful (c : Course) (limit : Span) (bans : List Record) : Prop where
  /-- A request that was answered has called the store, and what it found there is still there. -/
  called : c.request.action ≠ .kick → ∀ result, c.stage = .rest (.done result) →
    ∃ f old, c.call = some (f, old) ∧ old ++ c.rows <+: bans ∧ (Answers f limit →
      (result = .ok .alreadyApplied ↔ c.request.record.key ∈ keys old) ∧
      (c.request.record.key ∉ keys old →
        c.rows = [c.request.record] ∧ ∃ live, result = .ok (.applied live)))
  commands : c.commands = [] ∨
    ∃ server, c.request.origin = some server ∧ c.commands = [(server.id, c.request.command)]
  commanded : c.request.action ≠ .kick → c.commands ≠ [] → c.rows = [c.request.record]
  live : c.request.action ≠ .kick → ∀ live, c.stage = .rest (.done (.ok (.applied live))) →
    (live = true ↔ c.commands ≠ [])
  kicked : c.request.action = .kick → c.rows = []
  failed : ∀ e, c.stage = .rest (.done (.error e)) → c.rows = [] ∧ c.commands = []

theorem History.lawful {limit : Span} {c : Course} {bans : List Record} (h : History limit c)
    (hcall : ∀ f old, c.call = some (f, old) → old ++ c.rows <+: bans) : c.Lawful limit bans := by
  cases h with
  | storing hr =>
    exact ⟨nofun, .inl rfl, fun _ h => absurd rfl h, nofun, fun _ => rfl, nofun⟩
  | failed hr hf =>
    refine ⟨fun _ result hres => ⟨_, _, rfl, hcall _ _ rfl, fun ha => absurd ha hf⟩, .inl rfl,
      fun _ h => absurd rfl h, nofun, fun _ => rfl, fun _ _ => ⟨rfl, rfl⟩⟩
  | known hr hf hk =>
    refine ⟨fun _ result hres => ⟨_, _, rfl, hcall _ _ rfl, fun _ => ?_⟩, .inl rfl,
      fun _ h => absurd rfl h, nofun, fun _ => rfl, nofun⟩
    cases hres
    exact ⟨⟨fun _ => hk, fun _ => rfl⟩, fun hno => absurd hk hno⟩
  | telling hr hf hk ho => exact ⟨nofun, .inl rfl, fun _ h => absurd rfl h, nofun,
      fun h => absurd h hr, nofun⟩
  | untold hr hf hk =>
    refine ⟨fun _ result hres => ⟨_, _, rfl, hcall _ _ rfl, fun _ => ?_⟩, .inl rfl, fun _ _ => rfl,
      fun _ live hlive => ?_, fun h => absurd h hr, nofun⟩
    · cases hres
      exact ⟨⟨nofun, fun hold => absurd hold hk⟩, fun _ => ⟨rfl, false, rfl⟩⟩
    · cases hlive
      simp
  | told hr hf hk ho =>
    refine ⟨fun _ result hres => ⟨_, _, rfl, hcall _ _ rfl, fun _ => ?_⟩, .inr ⟨_, ho, rfl⟩,
      fun _ _ => rfl, fun _ live hlive => ?_, fun h => absurd h hr, nofun⟩
    · cases hres
      exact ⟨⟨nofun, fun hold => absurd hold hk⟩, fun _ => ⟨rfl, true, rfl⟩⟩
    · cases hlive
      simp
  | homeless hr =>
    exact ⟨fun h => absurd hr h, .inl rfl, fun h => absurd hr h, nofun, fun _ => rfl,
      fun _ _ => ⟨rfl, rfl⟩⟩
  | kicking hr ho => exact ⟨nofun, .inl rfl, fun h => absurd hr h, nofun, fun _ => rfl, nofun⟩
  | kicked hr ho =>
    exact ⟨fun h => absurd hr h, .inr ⟨_, ho, rfl⟩, fun h => absurd hr h, fun h => absurd hr h,
      fun _ => rfl, nofun⟩
  | missed hr =>
    exact ⟨fun h => absurd hr h, .inl rfl, fun h => absurd hr h, nofun, fun _ => rfl,
      fun _ _ => ⟨rfl, rfl⟩⟩

/-- Where an item of a list gets more values, the list has more values. -/
theorem perm_flatMap_set {α β : Type} {l : List α} {i : Nat} {a b : α} {f : α → List β}
    {more : List β} (hi : l[i]? = some a) (h : f b = f a ++ more) :
    (l.set i b).flatMap f ~ l.flatMap f ++ more := by
  induction l generalizing i with
  | nil => cases hi
  | cons x l ih =>
    cases i with
    | zero =>
      cases hi
      simp only [List.set_cons_zero, List.flatMap_cons, h, List.append_assoc]
      exact List.perm_append_comm.append_left _
    | succ i =>
      simp only [List.set_cons_succ, List.flatMap_cons, List.append_assoc]
      exact (ih hi).append_left _

theorem map_set_of_eq {α β : Type} {l : List α} {i : Nat} {a b : α} {f : α → β}
    (hi : l[i]? = some a) (h : f b = f a) : (l.set i b).map f = l.map f := by
  obtain ⟨hlt, rfl⟩ := List.getElem?_eq_some_iff.1 hi
  have hlt' : i < (l.map f).length := by rwa [List.length_map]
  have hget : (l.map f)[i] = f l[i] := List.getElem_map f
  rw [List.map_set, h, ← hget, List.set_getElem_self]

/-- Number of calls that a stage may still wait for. -/
def Stage.left : Stage → Nat
  | .storing _ => 2
  | .rest (.telling _ _) => 1
  | .rest (.done _) => 0

namespace Site

structure Keeps (s : Site) (st : Services) (requests : List Request) : Prop where
  limit : s.services.limit = st.limit
  requests : s.courses.map (·.request) = requests
  history : ∀ c ∈ s.courses, History st.limit c
  bans : s.services.stored.bans ~ st.stored.bans ++ s.courses.flatMap (·.rows)
  sent : s.services.sent ~ st.sent ++ s.courses.flatMap (·.commands)
  nodup : (keys s.services.stored.bans).Nodup
  call : ∀ c ∈ s.courses, ∀ f old, c.call = some (f, old) →
    old ++ c.rows <+: s.services.stored.bans

theorem keeps_start {st : Services} (requests : List Request)
    (h : (keys st.stored.bans).Nodup) : (start st requests).Keeps st requests where
  limit := rfl
  requests := by simp [start, Function.comp_def]
  history c hc := by
    obtain ⟨r, -, rfl⟩ := List.mem_map.1 hc
    exact .start st.limit r
  bans := by
    have hrows : (start st requests).courses.flatMap (·.rows) = [] := by
      simp [start, List.flatMap_eq_nil_iff]
    rw [hrows, List.append_nil]
    exact List.Perm.refl _
  sent := by
    have hcommands : (start st requests).courses.flatMap (·.commands) = [] := by
      simp [start, List.flatMap_eq_nil_iff]
    rw [hcommands, List.append_nil]
    exact List.Perm.refl _
  nodup := h
  call c hc f old hcall := by
    obtain ⟨r, -, rfl⟩ := List.mem_map.1 hc
    cases hcall

theorem nodup_fresh {bans added : List Record} (h : (keys bans).Nodup)
    (hfresh : added = [] ∨ ∃ r, added = [r] ∧ r.key ∉ keys bans) :
    (keys (bans ++ added)).Nodup := by
  obtain rfl | ⟨r, rfl, hr⟩ := hfresh
  · rwa [List.append_nil]
  · rw [keys, List.map_append]
    exact List.nodup_append'.2 ⟨h, List.nodup_singleton _, by simpa [keys] using hr⟩

theorem keeps_answer {s : Site} {st : Services} {requests : List Request}
    (h : s.Keeps st requests) (i : Nat) (f : Fault) : (s.answer i f).Keeps st requests := by
  cases hc : s.courses[i]? with
  | none =>
    have hsame : s.answer i f = s := by simp [answer, hc]
    rwa [hsame]
  | some c =>
    have hmem := List.mem_of_getElem? hc
    obtain ⟨c', added, issued, ha⟩ := (h.limit ▸ h.history c hmem).answered (f := f) hc
    have hcourses : ∀ d ∈ (s.answer i f).courses, d ∈ s.courses ∨ d = c' := by
      intro d hd
      rw [ha.courses] at hd
      exact List.mem_or_eq_of_mem_set hd
    refine ⟨ha.limit.trans h.limit, ?_, ?_, ?_, ?_, ?_, ?_⟩
    · rw [ha.courses, map_set_of_eq hc ha.request, h.requests]
    · intro d hd
      obtain hold | rfl := hcourses d hd
      · exact h.history d hold
      · exact h.limit ▸ ha.history
    · rw [ha.bans, ha.courses]
      refine (h.bans.append_right added).trans ?_
      rw [List.append_assoc]
      exact (perm_flatMap_set hc ha.rows).symm.append_left _
    · rw [ha.sent, ha.courses]
      refine (h.sent.append_right issued).trans ?_
      rw [List.append_assoc]
      exact (perm_flatMap_set hc ha.commands).symm.append_left _
    · rw [ha.bans]
      exact nodup_fresh h.nodup ha.fresh
    · -- bans are only appended, and a request has rows only after its own call
      intro d hd g old hcall
      rw [ha.bans]
      obtain hold | rfl := hcourses d hd
      · exact (h.call d hold g old hcall).trans (List.prefix_append _ _)
      · obtain ⟨hsame, hadded⟩ | ⟨hnew, hrows⟩ := ha.call
        · rw [ha.rows, hadded, List.append_nil, List.append_nil]
          exact h.call c hmem g old (hsame ▸ hcall)
        · rw [hnew] at hcall
          cases hcall
          rw [ha.rows, hrows]
          exact List.prefix_refl _

theorem keeps_run {st : Services} (requests : List Request) (h : (keys st.stored.bans).Nodup)
    (moves : List (Nat × Fault)) : ((start st requests).run moves).Keeps st requests := by
  induction moves using List.reverseRecOn with
  | nil => exact keeps_start requests h
  | append_singleton moves move ih =>
    rw [run_concat]
    exact keeps_answer ih move.1 move.2

theorem left_start (r : Request) : r.start.left ≤ 2 := by
  rcases start_cases r with ⟨-, hstart⟩ | ⟨-, hstart⟩ | ⟨server, -, -, hstart⟩ <;>
    simp [hstart, Stage.left]

theorem left_stored (r : Request) (a : Except StoreError Unit) :
    (Stage.rest (r.stored a)).left ≤ 1 := by
  unfold Request.stored
  split
  · split <;> simp [Stage.left]
  · simp [Stage.left]
  · simp [Stage.left]

/-- An answer brings its request one call closer to the end. -/
theorem left_answer {s : Site} {i : Nat} {c : Course} (hc : s.courses[i]? = some c) (f : Fault) :
    ∃ c', (s.answer i f).courses = s.courses.set i c' ∧ c'.stage.left ≤ c.stage.left - 1 := by
  cases hstage : c.stage with
  | storing record =>
    simp only [answer, hc, hstage]
    exact ⟨_, rfl, left_stored ..⟩
  | rest rest =>
    cases rest with
    | telling server command =>
      simp only [answer, hc, hstage]
      exact ⟨_, rfl, Nat.le_refl _⟩
    | done result =>
      obtain ⟨hi, hget⟩ := List.getElem?_eq_some_iff.1 hc
      refine ⟨c, ?_, by simp [hstage, Stage.left]⟩
      simp only [answer, hc, hstage]
      rw [← hget, List.set_getElem_self]

theorem left_run (st : Services) (requests : List Request) (moves : List (Nat × Fault)) {i : Nat}
    {c : Course} (hc : ((start st requests).run moves).courses[i]? = some c) :
    c.stage.left ≤ 2 - moves.countP (·.1 = i) := by
  induction moves using List.reverseRecOn generalizing c with
  | nil =>
    obtain ⟨r, -, rfl⟩ := List.mem_map.1 (List.mem_of_getElem? hc)
    exact left_start r
  | append_singleton moves move ih =>
    rw [run_concat] at hc
    rw [List.countP_append, List.countP_singleton]
    cases hd : ((start st requests).run moves).courses[move.1]? with
    | none =>
      have hsame : ((start st requests).run moves).answer move.1 move.2 =
          (start st requests).run moves := by simp [answer, hd]
      rw [hsame] at hc
      have hne : move.1 ≠ i := by
        rintro rfl
        cases hd.symm.trans hc
      simpa [hne] using ih hc
    | some d =>
      -- the answer counts for the request it names and for no other
      obtain ⟨d', hset, hleft⟩ := left_answer hd move.2
      rw [hset] at hc
      by_cases hmove : move.1 = i
      · subst hmove
        have hi := (List.getElem?_eq_some_iff.1 hd).1
        rw [List.getElem?_set_self hi] at hc
        cases hc
        have hbefore := ih hd
        simp only [decide_true, if_true]
        omega
      · rw [List.getElem?_set_ne hmove] at hc
        simpa [hmove] using ih hc

/-- A request that is carried out alone is dispatched. -/
theorem run_alone (st : Services) (r : Request) :
    let calls := if r.action = .kick then [(0, st.controlFault)]
      else [(0, st.storeFault), (0, st.controlFault)]
    let s := (start st [r]).run calls
    s.courses.map (·.stage) = [.rest (.done (st.dispatch r).1)] ∧
      s.services.stored = (st.dispatch r).2.stored ∧ s.services.sent = (st.dispatch r).2.sent := by
  intro calls s
  obtain ⟨hr, hstart⟩ | ⟨hr, hstart⟩ | ⟨server, hr, -, hstart⟩ := start_cases r
  · have hcalls : calls = [(0, st.storeFault), (0, st.controlFault)] := if_neg hr
    rcases hwrite : st.storeFault.write st.limit st.stored (.applyBan r.record) with ⟨a, store⟩
    cases hstored : r.stored a with
    | done result =>
      simp [s, hcalls, run, start, answer, hstart, Services.dispatch, Services.write, hwrite,
        hstored, Services.finish]
    | telling server command =>
      rcases htell : Rcon.tell st.controlFault st.limit st.sent server command with ⟨b, sent⟩
      simp [s, hcalls, run, start, answer, hstart, Services.dispatch, Services.write, hwrite,
        hstored, Services.finish, Services.tell, htell]
  · have hcalls : calls = [(0, st.controlFault)] := if_pos hr
    simp [s, hcalls, run, start, answer, hstart, Services.dispatch, Services.finish]
  · have hcalls : calls = [(0, st.controlFault)] := if_pos hr
    rcases htell : Rcon.tell st.controlFault st.limit st.sent server r.command with ⟨b, sent⟩
    simp [s, hcalls, run, start, answer, hstart, Services.dispatch, Services.finish,
      Services.tell, htell]

/-- However the calls of requests interleave, and whatever becomes of each call. -/
theorem run_requests {st : Services} (requests : List Request) (moves : List (Nat × Fault))
    (h : (keys st.stored.bans).Nodup) :
    let s := (start st requests).run moves
    (keys s.services.stored.bans).Nodup ∧
    (∀ r : Request, r.record.key = (r.target, r.reason, r.bucket)) ∧
    (∀ r r' : Request, r.requestedAt.Near → r'.requestedAt.Near →
      (r.bucket = r'.bucket ↔ SameMinute r.requestedAt r'.requestedAt)) ∧
    s.courses.map (·.request) = requests ∧
    s.services.stored.bans ~ st.stored.bans ++ s.courses.flatMap (·.rows) ∧
    s.services.sent ~ st.sent ++ s.courses.flatMap (·.commands) ∧
    (∀ c ∈ s.courses, c.Lawful st.limit s.services.stored.bans) ∧
    ∀ i c, s.courses[i]? = some c → 2 ≤ moves.countP (·.1 = i) →
      ∃ result, c.stage = .rest (.done result) := by
  intro s
  have hkeeps := keeps_run requests h moves
  refine ⟨hkeeps.nodup, Request.key_record, fun r r' hr hr' => minute_eq_iff hr hr',
    hkeeps.requests, hkeeps.bans, hkeeps.sent,
    fun c hc => (hkeeps.history c hc).lawful (hkeeps.call c hc), fun i c hc htwo => ?_⟩
  have hleft := left_run st requests moves hc
  cases hstage : c.stage with
  | storing record =>
    rw [hstage] at hleft
    simp only [Stage.left] at hleft
    omega
  | rest rest =>
    cases rest with
    | done result => exact ⟨result, rfl⟩
    | telling server command =>
      rw [hstage] at hleft
      simp only [Stage.left] at hleft
      omega

/-- A ban, a gag of the same player twenty seconds later, a ban of another player between them, and
a kick. -/
def rivals : List Request :=
  let request (target : UInt64) (action : Action) (second : Int) : Request :=
    ⟨⟨target⟩, .none, .language, "", action, none, some ⟨1, "s"⟩, ⟨second * 1000000000⟩⟩
  [request 76561197960265729 .ban (-50), request 76561197960265729 .gag (-30),
    request 76561197960265730 .ban (-40), request 76561197960265729 .kick 10]

/-- The gag is stored first; the first ban finds it there, the other ban does not, and the kick does
not get through. -/
theorem run_requests_rivals :
    let st := Services.ofStore .empty (.ofSeconds 5)
    let s := (start st rivals).run
      [(1, .none), (0, .none), (2, .none), (3, ⟨.ofSeconds 6, false⟩), (1, .none), (2, .none)]
    let minute : Instant := ⟨-60000000000⟩
    (keys st.stored.bans).Nodup ∧ (keys s.services.stored.bans).Nodup ∧
      rivals.map (·.record.key) = rivals.map (fun r => (r.target, r.reason, r.bucket)) ∧
      keys s.services.stored.bans = [(⟨76561197960265729⟩, .language, minute),
        (⟨76561197960265730⟩, .language, minute)] ∧
      (∀ c ∈ s.courses, c.Lawful st.limit s.services.stored.bans) ∧
      s.courses.map (·.rows.length) = [0, 1, 1, 0] ∧
      s.courses.map (·.commands.length) = [0, 1, 1, 0] := by
  intro st
  have h : (keys st.stored.bans).Nodup := List.nodup_nil
  obtain ⟨hnodup, hkey, -, -, -, -, hlawful, -⟩ := run_requests rivals
    [(1, .none), (0, .none), (2, .none), (3, ⟨.ofSeconds 6, false⟩), (1, .none), (2, .none)] h
  have hkeys : rivals.map (·.record.key) = rivals.map fun r => (r.target, r.reason, r.bucket) :=
    List.map_congr_left fun r _ => hkey r
  exact ⟨h, hnodup, hkeys, by decide +kernel, hlawful, by decide +kernel, by decide +kernel⟩

end Site

end Moderation.Ban
