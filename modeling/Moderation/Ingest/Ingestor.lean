import Moderation.Log.Classified
/-!
Ingestion of the log of one server. Lines are classified in order and the events are dated so that
their times never go back; a line that fails to classify is dated like the event before it. Lines
to be ignored become no event, and lines that nobody could make sense of are kept as they came.
-/
namespace Moderation.Ingest
open Log Number Time

structure Batch where
  server : Server
  lines : List String

/-- A line and the time at which it is read: it dates a line without a date of its own. -/
structure Reading where
  now : Stamp
  server : Server
  line : String

def Reading.classified (r : Reading) : Except Overflow Classified := classify r.now r.server r.line

inductive Standing where
  | known
  | unknown
  | ignored
  | failed
  deriving DecidableEq

def Standing.of (c : Classified) : Standing :=
  match c.failure, c.event.kind with
  | some _, _ => .failed
  | none, .ignored => .ignored
  | none, .unknown => .unknown
  | none, _ => .known

structure Entry where
  line : String
  standing : Standing
  event : Event

namespace Entry

def event? (e : Entry) : Option Event := if e.standing = .ignored then none else some e.event

/-- The line, if nobody could make sense of it. -/
def unhandled? (e : Entry) : Option String :=
  if e.standing = .failed ∨ e.standing = .unknown then some e.line else none

end Entry

/-- The latest time of an event so far. -/
structure Ingestor where
  lastSeen : Option Stamp

namespace Ingestor

def fresh : Ingestor := ⟨none⟩

def clamp (i : Ingestor) (t : Stamp) : Stamp :=
  match i.lastSeen with
  | some last => last.max t
  | none => t

/-- Enters a classified line. Lines that failed or are ignored do not move the time. -/
def enter (i : Ingestor) (line : String) (c : Classified) : Entry × Ingestor :=
  let e := c.event
  match Standing.of c with
  | .failed => (⟨line, .failed, { e with occurredAt := i.lastSeen.getD e.occurredAt }⟩, i)
  | .ignored => (⟨line, .ignored, e⟩, i)
  | standing =>
    let t := i.clamp e.occurredAt
    (⟨line, standing, { e with occurredAt := t }⟩, ⟨some t⟩)

/-- Enters lines in order, up to the first whose classification overflows. -/
def follow (i : Ingestor) : List Reading → List Entry × Except Overflow Ingestor
  | [] => ([], .ok i)
  | r :: rs =>
    match r.classified with
    | .error o => ([], .error o)
    | .ok c =>
      let (entry, i) := i.enter r.line c
      let (entries, result) := i.follow rs
      (entry :: entries, result)

/-- Enters batch after batch, up to the first overflow; gives what came of each batch. -/
def followAll (i : Ingestor) : List (List Reading) → List (List Entry) × Except Overflow Ingestor
  | [] => ([], .ok i)
  | batch :: batches =>
    match i.follow batch with
    | (entries, .error o) => ([entries], .error o)
    | (entries, .ok i) =>
      let (rest, result) := i.followAll batches
      (entries :: rest, result)

def ingest (now : Stamp) (server : Server) (i : Ingestor) (lines : List String) :
    List Entry × Except Overflow Ingestor :=
  i.follow (lines.map (⟨now, server, ·⟩))

end Ingestor

structure Report where
  emitted : Nat
  failed : Nat
  unknown : Nat
  ignored : Nat
  deriving DecidableEq

def Report.of (entries : List Entry) : Report :=
  let count (s : Standing) := entries.countP (·.standing = s)
  ⟨(entries.filterMap Entry.event?).length, count .failed, count .unknown, count .ignored⟩

end Moderation.Ingest
