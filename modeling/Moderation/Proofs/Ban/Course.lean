import Mathlib.Data.List.Basic
import Moderation.Ban.Dispatch
/-!
The course of one request: the calls it makes, one after the other, each of which may be slow or
fail in its own way. `History` lists the courses that there are.
-/
namespace Moderation.Ban
open Rcon Time

def Answers (f : Fault) (limit : Span) : Prop := f.delay ≤ limit ∧ f.failing = false

instance (f : Fault) (limit : Span) : Decidable (Answers f limit) :=
  inferInstanceAs (Decidable (_ ∧ _))

def keys (bans : List Record) : List (SteamId × Reason × Instant) := bans.map (·.key)

/-- A request under way, with what it added to the services. Its call to the store is kept with the
bans that were there before. -/
structure Course where
  request : Request
  stage : Stage
  call : Option (Fault × List Record)
  rows : List Record
  commands : Sent

structure Site where
  services : Services
  courses : List Course

namespace Site

def start (s : Services) (requests : List Request) : Site :=
  ⟨s, requests.map fun r => ⟨r, r.start, none, [], []⟩⟩

/-- The call that a request waits for is answered by a service that behaves like `f`. -/
def answer (s : Site) (i : Nat) (f : Fault) : Site :=
  match s.courses[i]? with
  | none => s
  | some c => match c.stage with
    | .storing record =>
      let (answer, services) := Services.write { s.services with storeFault := f } (.applyBan record)
      ⟨services, s.courses.set i { c with
        stage := .rest (c.request.stored answer)
        call := some (f, s.services.stored.bans)
        rows := c.rows ++ services.stored.bans.drop s.services.stored.bans.length }⟩
    | .rest (.telling server command) =>
      let (answer, services) := Services.tell { s.services with controlFault := f } server command
      ⟨services, s.courses.set i { c with
        stage := .rest (.done (c.request.told answer))
        commands := c.commands ++ services.sent.drop s.services.sent.length }⟩
    | .rest (.done _) => s

/-- The calls are answered in any order; `moves` names the request and the behaviour each time. -/
def run (s : Site) (moves : List (Nat × Fault)) : Site :=
  moves.foldl (fun s move => s.answer move.1 move.2) s

theorem run_concat (s : Site) (moves : List (Nat × Fault)) (i : Nat) (f : Fault) :
    s.run (moves ++ [(i, f)]) = (s.run moves).answer i f := by
  simp [run]

end Site

theorem write_of_not_answers {s : Services} (h : ¬ Answers s.storeFault s.limit)
    (w : Store.Write) : ∃ cause, cause ≠ .duplicate ∧ s.write w = (.error cause, s) := by
  unfold Services.write Fault.write Fault.call
  by_cases hslow : s.limit < s.storeFault.delay
  · exact ⟨.timeout s.limit, nofun, by simp [hslow]⟩
  · have hfailing : s.storeFault.failing = true := by
      by_contra hf
      exact h ⟨Span.not_lt.1 hslow, by simpa using hf⟩
    exact ⟨Fault.unavailable, nofun, by simp [hslow, hfailing]⟩

theorem call_of_answers {α : Type} {f : Fault} {limit : Span} (h : Answers f limit)
    (run : Except StoreError α) : f.call limit run = run := by
  simp [Fault.call, Span.not_lt.2 h.1, h.2]

theorem write_of_mem {s : Services} (h : Answers s.storeFault s.limit) {r : Record}
    (hr : r.key ∈ keys s.stored.bans) : s.write (.applyBan r) = (.error .duplicate, s) := by
  have hany : s.stored.bans.any (·.key = r.key) = true := by
    obtain ⟨x, hx, hkey⟩ := List.mem_map.1 hr
    exact List.any_eq_true.2 ⟨x, hx, by simpa using hkey⟩
  simp [Services.write, Fault.write, call_of_answers h, Store.write, hany]

theorem write_of_not_mem {s : Services} (h : Answers s.storeFault s.limit) {r : Record}
    (hr : r.key ∉ keys s.stored.bans) : s.write (.applyBan r) =
      (.ok (), { s with stored := { s.stored with bans := s.stored.bans ++ [r] } }) := by
  have hany : s.stored.bans.any (·.key = r.key) = false := by
    refine List.any_eq_false.2 fun x hx hkey => hr ?_
    exact List.mem_map.2 ⟨x, hx, by simpa using hkey⟩
  simp [Services.write, Fault.write, call_of_answers h, Store.write, hany]

theorem tell_cases (s : Services) (server : Server) (c : Command) :
    s.tell server c = (.ok (), { s with sent := s.sent ++ [(server.id, c)] }) ∨
      ∃ cause, s.tell server c = (.error cause, s) := by
  unfold Services.tell Rcon.tell
  by_cases hslow : s.limit < s.controlFault.delay
  · exact .inr ⟨.timeout s.limit, by simp [hslow]⟩
  · cases hfailing : s.controlFault.failing with
    | true => exact .inr ⟨.io .connectionRefused, by simp [hslow]⟩
    | false => exact .inl (by simp [hslow])

inductive History (limit : Span) : Course → Prop
  | storing {r : Request} (hr : r.action ≠ .kick) :
    History limit ⟨r, .storing r.record, none, [], []⟩
  | failed {r : Request} {f : Fault} {bans : List Record} {cause : StoreError}
    (hr : r.action ≠ .kick) (hf : ¬ Answers f limit) :
    History limit ⟨r, .rest (.done (.error (.store cause))), some (f, bans), [], []⟩
  | known {r : Request} {f : Fault} {bans : List Record} (hr : r.action ≠ .kick)
    (hf : Answers f limit) (hk : r.record.key ∈ keys bans) :
    History limit ⟨r, .rest (.done (.ok .alreadyApplied)), some (f, bans), [], []⟩
  | telling {r : Request} {f : Fault} {bans : List Record} {server : Server}
    (hr : r.action ≠ .kick) (hf : Answers f limit) (hk : r.record.key ∉ keys bans)
    (ho : r.origin = some server) :
    History limit ⟨r, .rest (.telling server r.command), some (f, bans), [r.record], []⟩
  | untold {r : Request} {f : Fault} {bans : List Record} (hr : r.action ≠ .kick)
    (hf : Answers f limit) (hk : r.record.key ∉ keys bans) :
    History limit ⟨r, .rest (.done (.ok (.applied false))), some (f, bans), [r.record], []⟩
  | told {r : Request} {f : Fault} {bans : List Record} {server : Server}
    (hr : r.action ≠ .kick) (hf : Answers f limit) (hk : r.record.key ∉ keys bans)
    (ho : r.origin = some server) :
    History limit ⟨r, .rest (.done (.ok (.applied true))), some (f, bans), [r.record],
      [(server.id, r.command)]⟩
  | homeless {r : Request} (hr : r.action = .kick) :
    History limit ⟨r, .rest (.done (.error .noOrigin)), none, [], []⟩
  | kicking {r : Request} {server : Server} (hr : r.action = .kick) (ho : r.origin = some server) :
    History limit ⟨r, .rest (.telling server r.command), none, [], []⟩
  | kicked {r : Request} {server : Server} (hr : r.action = .kick) (ho : r.origin = some server) :
    History limit ⟨r, .rest (.done (.ok (.applied true))), none, [], [(server.id, r.command)]⟩
  | missed {r : Request} {cause : ControlError} (hr : r.action = .kick) :
    History limit ⟨r, .rest (.done (.error (.control cause))), none, [], []⟩

theorem start_cases (r : Request) :
    r.action ≠ .kick ∧ r.start = .storing r.record ∨
    r.action = .kick ∧ r.start = .rest (.done (.error .noOrigin)) ∨
    ∃ server, r.action = .kick ∧ r.origin = some server ∧
      r.start = .rest (.telling server r.command) := by
  by_cases hr : r.action = .kick
  · cases ho : r.origin with
    | none => exact .inr (.inl ⟨hr, by simp [Request.start, hr, ho]⟩)
    | some server => exact .inr (.inr ⟨server, hr, rfl, by simp [Request.start, hr, ho]⟩)
  · refine .inl ⟨hr, ?_⟩
    cases haction : r.action <;> simp_all [Request.start]

theorem History.start (limit : Span) (r : Request) :
    History limit ⟨r, r.start, none, [], []⟩ := by
  rcases start_cases r with ⟨hr, hstart⟩ | ⟨hr, hstart⟩ | ⟨server, hr, ho, hstart⟩ <;> rw [hstart]
  · exact .storing hr
  · exact .homeless hr
  · exact .kicking hr ho

structure Answered (s s' : Site) (i : Nat) (f : Fault) (c c' : Course) (added : List Record)
    (issued : Sent) : Prop where
  courses : s'.courses = s.courses.set i c'
  history : History s.services.limit c'
  request : c'.request = c.request
  limit : s'.services.limit = s.services.limit
  bans : s'.services.stored.bans = s.services.stored.bans ++ added
  sent : s'.services.sent = s.services.sent ++ issued
  rows : c'.rows = c.rows ++ added
  commands : c'.commands = c.commands ++ issued
  fresh : added = [] ∨ ∃ r, added = [r] ∧ r.key ∉ keys s.services.stored.bans
  call : c'.call = c.call ∧ added = [] ∨
    c'.call = some (f, s.services.stored.bans) ∧ c.rows = []

section Answer
variable {s : Site} {i : Nat} {f : Fault} {r : Request}

theorem History.stored {limit : Span} {bans : List Record} (hr : r.action ≠ .kick)
    (hf : Answers f limit) (hk : r.record.key ∉ keys bans) :
    History limit ⟨r, .rest (r.stored (.ok ())), some (f, bans), [r.record], []⟩ := by
  unfold Request.stored
  cases ho : r.origin with
  | none => exact .untold hr hf hk
  | some server => exact .telling hr hf hk ho

theorem answered_storing (hr : r.action ≠ .kick)
    (hc : s.courses[i]? = some ⟨r, .storing r.record, none, [], []⟩) :
    ∃ c' added, Answered s (s.answer i f) i f ⟨r, .storing r.record, none, [], []⟩ c' added [] := by
  let services := { s.services with storeFault := f }
  -- no answer in time, a record with the same key, or a new row
  by_cases hf : Answers f s.services.limit
  · by_cases hk : r.record.key ∈ keys s.services.stored.bans
    · have hwrite : services.write (.applyBan r.record) = (.error .duplicate, services) :=
        write_of_mem hf hk
      have hanswer : s.answer i f = ⟨services, s.courses.set i
          ⟨r, .rest (.done (.ok .alreadyApplied)), some (f, s.services.stored.bans), [], []⟩⟩ := by
        simp [Site.answer, hc, services, hwrite, Request.stored]
      rw [hanswer]
      refine ⟨_, [], ⟨rfl, .known hr hf hk, rfl, rfl, ?_, ?_, rfl, rfl, .inl rfl, ?_⟩⟩
      · exact (List.append_nil _).symm
      · exact (List.append_nil _).symm
      · exact .inr ⟨rfl, rfl⟩
    · have hwrite := write_of_not_mem (s := services) hf hk
      have hanswer : s.answer i f = ⟨{ services with stored := { services.stored with
          bans := s.services.stored.bans ++ [r.record] } }, s.courses.set i
          ⟨r, .rest (r.stored (.ok ())), some (f, s.services.stored.bans), [r.record], []⟩⟩ := by
        simp [Site.answer, hc, services, hwrite]
      rw [hanswer]
      refine ⟨_, [r.record], ⟨rfl, .stored hr hf hk, rfl, rfl, rfl, ?_, rfl, rfl, ?_, ?_⟩⟩
      · exact (List.append_nil _).symm
      · exact .inr ⟨r.record, rfl, hk⟩
      · exact .inr ⟨rfl, rfl⟩
  · obtain ⟨cause, hcause, hwrite⟩ := write_of_not_answers (s := services) hf (.applyBan r.record)
    have hstored : r.stored (.error cause) = .done (.error (.store cause)) := by
      cases cause <;> first | rfl | exact absurd rfl hcause
    have hanswer : s.answer i f = ⟨services, s.courses.set i
        ⟨r, .rest (.done (.error (.store cause))), some (f, s.services.stored.bans), [], []⟩⟩ := by
      simp [Site.answer, hc, services, hwrite, hstored]
    rw [hanswer]
    refine ⟨_, [], ⟨rfl, .failed hr hf, rfl, rfl, ?_, ?_, rfl, rfl, .inl rfl, ?_⟩⟩
    · exact (List.append_nil _).symm
    · exact (List.append_nil _).symm
    · exact .inr ⟨rfl, rfl⟩

/-- The server of a request is told or not. -/
theorem answered_telling {c : Course} {server : Server} {command : Command}
    (hc : s.courses[i]? = some c) (hstage : c.stage = .rest (.telling server command))
    (hcommands : c.commands = [])
    (hok : History s.services.limit { c with
      stage := .rest (.done (c.request.told (.ok ()))), commands := [(server.id, command)] })
    (herror : ∀ cause, History s.services.limit { c with
      stage := .rest (.done (c.request.told (.error cause))) }) :
    ∃ c' issued, Answered s (s.answer i f) i f c c' [] issued := by
  let services := { s.services with controlFault := f }
  obtain htell | ⟨cause, htell⟩ := tell_cases services server command
  · have hanswer : s.answer i f = ⟨{ services with sent := s.services.sent ++
        [(server.id, command)] }, s.courses.set i { c with
          stage := .rest (.done (c.request.told (.ok ()))), commands := [(server.id, command)] }⟩ := by
      simp [Site.answer, hc, hstage, services, htell, hcommands]
    rw [hanswer]
    refine ⟨_, _, ⟨rfl, hok, rfl, rfl, ?_, rfl, ?_, ?_, .inl rfl, .inl ⟨rfl, rfl⟩⟩⟩
    · exact (List.append_nil _).symm
    · exact (List.append_nil _).symm
    · rw [hcommands]
      rfl
  · have hanswer : s.answer i f = ⟨services, s.courses.set i { c with
        stage := .rest (.done (c.request.told (.error cause))) }⟩ := by
      simp [Site.answer, hc, hstage, services, htell]
    rw [hanswer]
    refine ⟨_, [], ⟨rfl, herror cause, rfl, rfl, ?_, ?_, ?_, ?_, .inl rfl,
      .inl ⟨rfl, rfl⟩⟩⟩
    all_goals exact (List.append_nil _).symm

theorem answered_done {c : Course} {result : Except DispatchError Outcome}
    (hc : s.courses[i]? = some c) (h : History s.services.limit c)
    (hstage : c.stage = .rest (.done result)) : Answered s (s.answer i f) i f c c [] [] := by
  have hanswer : s.answer i f = s := by simp [Site.answer, hc, hstage]
  have hset : s.courses.set i c = s.courses := by
    obtain ⟨hi, hget⟩ := List.getElem?_eq_some_iff.1 hc
    rw [← hget, List.set_getElem_self]
  rw [hanswer]
  refine ⟨hset.symm, h, rfl, rfl, ?_, ?_, ?_, ?_, .inl rfl, .inl ⟨rfl, rfl⟩⟩
  all_goals exact (List.append_nil _).symm

/-- One answer goes on with one request. -/
theorem History.answered {c : Course} (h : History s.services.limit c)
    (hc : s.courses[i]? = some c) :
    ∃ c' added issued, Answered s (s.answer i f) i f c c' added issued := by
  cases h with
  | storing hr =>
    obtain ⟨c', added, h⟩ := answered_storing (f := f) hr hc
    exact ⟨c', added, [], h⟩
  | telling hr hf hk ho =>
    obtain ⟨c', issued, h⟩ := answered_telling (f := f) hc rfl rfl (.told hr hf hk ho)
      fun cause => by simpa [Request.told, hr] using .untold hr hf hk
    exact ⟨c', [], issued, h⟩
  | kicking hr ho =>
    obtain ⟨c', issued, h⟩ := answered_telling (f := f) hc rfl rfl (.kicked hr ho)
      fun cause => by simpa [Request.told, hr] using .missed hr
    exact ⟨c', [], issued, h⟩
  | failed hr hf => exact ⟨_, [], [], answered_done hc (.failed hr hf) rfl⟩
  | known hr hf hk => exact ⟨_, [], [], answered_done hc (.known hr hf hk) rfl⟩
  | untold hr hf hk => exact ⟨_, [], [], answered_done hc (.untold hr hf hk) rfl⟩
  | told hr hf hk ho => exact ⟨_, [], [], answered_done hc (.told hr hf hk ho) rfl⟩
  | homeless hr => exact ⟨_, [], [], answered_done hc (.homeless hr) rfl⟩
  | kicked hr ho => exact ⟨_, [], [], answered_done hc (.kicked hr ho) rfl⟩
  | missed hr => exact ⟨_, [], [], answered_done hc (.missed hr) rfl⟩

end Answer

end Moderation.Ban
