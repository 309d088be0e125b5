import Moderation.Ingest.Router
import Moderation.Schedule
/-!
Reception of log lines: batches are submitted at any time and ingested when the servers get their
turns, in the order in which they began to wait.
-/
namespace Moderation.Ingest
open Schedule Time

def allowance : Nat := 128

def tasks (now : Stamp) : Tasks Int Intake where
  allowance _ := allowance
  step? _ id x := (x.ingestNext? now id).map fun (_, x) => ⟨x, [], none⟩

structure Reception where
  intake : Intake
  agenda : Agenda Int

namespace Reception

def start (capacity : Nat) (bus : Bus) : Reception := ⟨⟨.start capacity, bus, []⟩, .empty⟩

def submit (r : Reception) (b : Batch) : Except IngestError Unit × Reception :=
  let (answer, router) := r.intake.router.submit b
  (answer, { r with intake.router := router, agenda := r.agenda.wake b.server.id })

def settle (r : Reception) (now : Stamp) : Reception :=
  let fuel := r.agenda.ready.length + r.intake.router.waiting + 1
  let (agenda, intake) := r.agenda.run (tasks now) .zero fuel r.intake
  ⟨intake, agenda⟩

def cancel (r : Reception) : Reception := { r with intake.router := r.intake.router.cancel }

end Reception
end Moderation.Ingest
