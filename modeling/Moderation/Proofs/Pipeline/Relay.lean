import Moderation.Pipeline.Run
import Moderation.Proofs.Ingest.Routes
import Moderation.Proofs.Log.Utterance
import Moderation.Proofs.Pipeline.Tasks
import Moderation.Proofs.Schedule
/-!
The log of one server on its way through the pipeline. The lines of a batch are entered one by one,
so that other tasks go on between them; entered without a break they are the step in which a server
ingests its next batch.
-/
namespace Moderation
open Ingest Log Schedule Time Worker

namespace Ingest

/-- A batch that is taken has waited first in the queue of its route. -/
theorem Router.take?_eq_some {router router' : Router} {id : Int} {b : Batch}
    (h : router.take? id = some (b, router')) :
    ∃ route queue, router.routes.get? id = some route ∧ route.queue.take? = some (b, queue) ∧
      router' = { router with routes := router.routes.insert id { route with queue } } := by
  obtain ⟨route, hroute, h⟩ := Option.bind_eq_some_iff.1 h
  obtain ⟨⟨b', queue⟩, hqueue, h⟩ := Option.bind_eq_some_iff.1 h
  cases h
  exact ⟨route, queue, hroute, hqueue, rfl⟩

theorem Intake.publish_publish (x : Intake) (es fs : List Entry) :
    (x.publish es).publish fs = x.publish (es ++ fs) := by
  simp [publish, publishAll_append]

namespace Ingestor
variable {i j : Ingestor} {now : Stamp} {origin : Server} {line : String} {es : List Entry}

theorem ingest_cons_of_error {o : Number.Overflow}
    (h : i.ingest now origin [line] = (es, .error o)) (lines : List String) :
    i.ingest now origin (line :: lines) = (es, .error o) := by
  have happend := i.follow_append [⟨now, origin, line⟩] (lines.map (⟨now, origin, ·⟩))
  have hfirst : i.follow [⟨now, origin, line⟩] = (es, .error o) := h
  rw [hfirst] at happend
  exact happend

theorem ingest_cons_of_ok (h : i.ingest now origin [line] = (es, .ok j)) (lines : List String) :
    i.ingest now origin (line :: lines) =
      (es ++ (j.ingest now origin lines).1, (j.ingest now origin lines).2) := by
  have happend := i.follow_append [⟨now, origin, line⟩] (lines.map (⟨now, origin, ·⟩))
  have hfirst : i.follow [⟨now, origin, line⟩] = (es, .ok j) := h
  rw [hfirst] at happend
  exact happend

end Ingestor

end Ingest

namespace Pipeline

def batchOf (server : Server) (us : List Utterance) : Batch := ⟨server, us.map Utterance.line⟩

structure Relay where
  state : State
  /-- The ingestor at work, and what is left of its batch. -/
  batch : Option (Ingestor × Batch)
  /-- All that was said in the batches that were taken in. -/
  sent : List Utterance

namespace Relay

/-- What can happen: a batch is submitted, the next batch is begun, its next line is entered at some
time, a task goes on, or the store begins to behave in another way. -/
inductive Move where
  | submit (us : List Utterance)
  | begin
  | enter (now : Instant)
  | go (t : Task) (now : Instant) (clock : Span)
  | fault (f : Fault)

def start (s : State) : Relay := ⟨s, none, []⟩

def submit (server : Server) (r : Relay) (us : List Utterance) : Relay :=
  let (answer, router) := r.state.intake.router.submit (batchOf server us)
  { r with
    state.intake.router := router
    sent := match answer with
      | .ok () => r.sent ++ us
      | .error _ => r.sent }

def begin (server : Server) (r : Relay) : Relay :=
  match r.batch, r.state.intake.router.take? server.id with
  | none, some (b, router) =>
    { r with
      state.intake.router := router
      batch := some ((router.route server.id).ingestor, b) }
  | _, _ => r

def enter (server : Server) (r : Relay) (now : Instant) : Relay :=
  match r.batch with
  | none => r
  | some (i, ⟨_, []⟩) =>
    { r with
      state.intake.router := r.state.intake.router.setIngestor server.id i
      batch := none }
  | some (i, ⟨origin, line :: lines⟩) =>
    match i.ingest (.ofInstant now) origin [line] with
    | (entries, .ok i) =>
      { r with
        state.intake := r.state.intake.publish entries
        batch := some (i, ⟨origin, lines⟩) }
    | (entries, .error _) =>
      { r with
        state.intake := { r.state.intake with
          router := r.state.intake.router.closeRoute server.id }.publish entries
        batch := none }

/-- A task goes on, if it can; a server with a batch under way begins no other. -/
def go (server : Server) (r : Relay) (t : Task) (now : Instant) (clock : Span) : Relay :=
  if t = .ingest server.id ∧ r.batch.isSome then r
  else match r.state.step? now clock t with
    | some step => { r with state := step.state }
    | none => r

def step (server : Server) (r : Relay) : Move → Relay
  | .submit us => r.submit server us
  | .begin => r.begin server
  | .enter now => r.enter server now
  | .go t now clock => r.go server t now clock
  | .fault f => { r with state.archive.fault := f }

def run (server : Server) (r : Relay) (moves : List Move) : Relay := moves.foldl (step server) r

theorem run_append (server : Server) (r : Relay) (xs ys : List Move) :
    r.run server (xs ++ ys) = (r.run server xs).run server ys :=
  List.foldl_append ..

def Move.isTask : Move → Bool
  | .submit _ | .fault _ => false
  | _ => true

def Reaches (server : Server) (r r' : Relay) : Prop :=
  ∃ moves, (∀ m ∈ moves, m.isTask = true) ∧ r.run server moves = r'

theorem Reaches.refl (server : Server) (r : Relay) : r.Reaches server r := ⟨[], nofun, rfl⟩

theorem Reaches.step {server : Server} {r r' : Relay} {m : Move} (hm : m.isTask = true)
    (h : (r.step server m).Reaches server r') : r.Reaches server r' := by
  obtain ⟨moves, hmoves, hrun⟩ := h
  exact ⟨m :: moves, List.forall_mem_cons.2 ⟨hm, hmoves⟩, hrun⟩

theorem Reaches.trans {server : Server} {r r' r'' : Relay} (h : r.Reaches server r')
    (h' : r'.Reaches server r'') : r.Reaches server r'' := by
  obtain ⟨moves, hmoves, rfl⟩ := h
  obtain ⟨moves', hmoves', rfl⟩ := h'
  exact ⟨moves ++ moves', List.forall_mem_append.2 ⟨hmoves, hmoves'⟩, run_append ..⟩

section Whole
variable {server : Server} {r : Relay} {now : Instant}

theorem run_enter_of_none (h : r.batch = none) (n : Nat) :
    r.run server (.replicate n (.enter now)) = r := by
  induction n with
  | zero => rfl
  | succ n ih =>
    have hstep : r.step server (.enter now) = r := by simp [step, enter, h]
    rw [List.replicate_succ, run, List.foldl_cons, hstep]
    exact ih

/-- The lines of a batch that are entered without a break. -/
theorem run_enter {i : Ingestor} {origin : Server} {lines : List String}
    (h : r.batch = some (i, ⟨origin, lines⟩)) :
    r.run server (.replicate (lines.length + 1) (.enter now)) =
      { r with
        state.intake := { r.state.intake with
          router := (i.ingest (.ofInstant now) origin lines).2.toOption.elim
            (r.state.intake.router.closeRoute server.id)
            (r.state.intake.router.setIngestor server.id) }.publish
              (i.ingest (.ofInstant now) origin lines).1
        batch := none } := by
  induction lines generalizing r i with
  | nil =>
    simp [run, step, enter, h, Ingestor.ingest, Ingestor.follow, Intake.publish, Bus.publishAll,
      Except.toOption]
  | cons line lines ih =>
    rw [List.length_cons, List.replicate_succ, run, List.foldl_cons, ← run]
    rcases hfirst : i.ingest (.ofInstant now) origin [line] with ⟨es, _ | j⟩
    · have hwhole := Ingestor.ingest_cons_of_error hfirst lines
      simp only [step, enter, h, hfirst, hwhole, Except.toOption, Option.elim_none]
      rw [run_enter_of_none rfl]
    · have hwhole := Ingestor.ingest_cons_of_ok hfirst lines
      simp only [step, enter, h, hfirst, hwhole]
      rw [ih rfl, ← Intake.publish_publish]
      rfl

/-- The step in which a server ingests its next batch is a run in which the batch is begun and its
lines are entered without a break. -/
theorem go_ingest (hidle : r.batch = none) (hgoes : r.state.intake.router.isCancelled = false)
    (now : Instant) (clock : Span) :
    ∃ n, r.go server (.ingest server.id) now clock =
      r.run server (.begin :: .replicate n (.enter now)) := by
  cases htake : r.state.intake.router.take? server.id with
  | none =>
    have hbegin : r.step server .begin = r := by simp [step, begin, hidle, htake]
    refine ⟨0, ?_⟩
    rw [List.replicate_zero, run, List.foldl_cons, hbegin]
    simp [go, hidle, State.step?, State.ingest?, Intake.ingestNext?, htake]
  | some taken =>
    obtain ⟨b, router⟩ := taken
    have hcancelled : router.isCancelled = false := by
      obtain ⟨route, queue, -, -, rfl⟩ := Router.take?_eq_some htake
      exact hgoes
    refine ⟨b.lines.length + 1, ?_⟩
    rw [run, List.foldl_cons, ← run]
    simp only [step, begin, hidle, htake]
    rw [run_enter rfl]
    rcases hwhole : (router.route server.id).ingestor.ingest (.ofInstant now) b.server b.lines with
      ⟨entries, o | i⟩
    · simp [go, hidle, State.step?, State.ingest?, Intake.ingestNext?, htake, hcancelled, hwhole,
        Except.toOption]
    · simp [go, hidle, State.step?, State.ingest?, Intake.ingestNext?, htake, hcancelled, hwhole,
        Except.toOption]

end Whole

section Scheduled
variable {server : Server} {r : Relay} {p : Pipeline}

theorem state_submit (hstate : r.state = p.state) (us : List Utterance) :
    (r.submit server us).state = (p.submit (batchOf server us)).2.state := by
  rw [submit, Pipeline.submit, hstate]

/-- What comes of a pipeline that is left alone for some time comes of moves of its tasks. -/
theorem reaches_run (hstate : r.state = p.state) (hidle : r.batch = none) (now : Instant)
    (d : Span) : r.Reaches server { r with state := (p.run now d).state } := by
  have hkept : IsKept (tasks now) fun s s' => ∀ r : Relay, r.batch = none → r.state = s →
      r.Reaches server { r with state := s' } := by
    refine ⟨fun s r _ hr => ?_, fun h h' r hidle hr => ?_,
      fun {clock t s step} hstep r hidle hr => ?_⟩
    · rw [← hr]
      exact .refl server r
    · exact (h r hidle hr).trans (h' _ hidle rfl)
    · have hmove : r.step server (.go t now clock) = { r with state := step.state } := by
        simp only [tasks] at hstep
        simp [Relay.step, go, hidle, hr, hstep]
      exact .step (m := .go t now clock) rfl (hmove ▸ .refl server _)
  exact hkept.run _ _ p.agenda p.state r hidle hstate

end Scheduled

end Relay
end Pipeline
end Moderation
