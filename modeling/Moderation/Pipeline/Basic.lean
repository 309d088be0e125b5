import Moderation.Ingest.Router
import Moderation.Match.Book
import Moderation.Settings.Basic
import Moderation.Warning.Engine
import Moderation.Worker.Errand
/-!
The pipeline: log lines are ingested and published on the bus, and its consumers warn players, keep
matches and write the histories; what takes time is left to workers. Which consumers there are
depends on the settings, and a pipeline that filters chat starts only if its filters can be loaded.
-/
namespace Moderation.Pipeline
open Ingest Time Worker

inductive Consumer where
  | engine
  | summarizer
  | chatWriter
  | connectionWriter
  deriving DecidableEq

namespace Consumer

def name : Consumer → String
  | engine => "warnings"
  | summarizer => "matches"
  | chatWriter => "chat_history"
  | connectionWriter => "connection_history"

def interest : Consumer → Interest
  | engine => .kinds [.say, .sayTeam]
  | summarizer => .any
  | chatWriter => .kinds [.say, .sayTeam]
  | connectionWriter => .kinds [.connected]

/-- The consumers in the order in which they subscribe. Without filters there is no engine. -/
def all (filterEnabled : Bool) : List Consumer :=
  (if filterEnabled then [engine] else []) ++ [summarizer, chatWriter, connectionWriter]

def bus (capacity : Nat) (cs : List Consumer) : Except BusError Bus :=
  cs.foldlM (fun b c => b.subscribe c.name c.interest capacity) .empty

end Consumer

structure State where
  consumers : List Consumer
  intake : Intake
  archive : Archive
  engine : Warning.Engine
  book : Match.Book
  /-- Number of matches opened so far. -/
  created : Nat
  pool : Pool Errand
  /-- The calls that writers wait for, and what they write. -/
  calls : List (Consumer × Call × Store.Write)

inductive StartupError where
  | bus (cause : BusError)
  | store (cause : StoreError)
  | unhandledLog
  deriving DecidableEq

def StartupError.message : StartupError → String
  | .bus cause => "event bus: " ++ cause.message
  | .store cause => "loading filters: " ++ cause.message
  | .unhandledLog => "unhandled log file"

def policy (s : Settings) : Warning.Policy :=
  ⟨s.warningLimit, s.warningTimeout, s.warningAction, s.warningLength.span?, s.owner,
    s.externalUrl⟩

def loadFilters (s : Settings) (a : Archive) : Except StartupError (List FilterRecord) :=
  if s.filterEnabled then (a.call (·.filters)).mapError .store else .ok []

/-- The state in which the pipeline starts; `canOpen` tells which files can be opened. -/
def State.start (s : Settings) (store : Store) (fault : Fault) (canOpen : String → Bool) :
    Except StartupError State := do
  let archive : Archive := ⟨store, fault, .ofSeconds s.storeTimeoutSeconds⟩
  let filters ← loadFilters s archive
  let consumers := Consumer.all s.filterEnabled
  let bus ← (Consumer.bus s.busQueueCapacity consumers).mapError .bus
  if !s.unhandledLogPath.all canOpen then .error .unhandledLog
  else return {
    consumers
    intake := ⟨.start s.ingestQueueCapacity, bus, []⟩
    archive
    engine := .start (policy s) (Warning.filtersOf filters)
    book := .empty
    created := 0
    pool := .start s.workers s.workerQueueCapacity
    calls := [] }

end Moderation.Pipeline
