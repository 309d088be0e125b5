import Moderation.Match.Book
import Moderation.Worker.Job
/-!
The summarizer keeps the live matches. A match that is sealed is handed in to be saved, and it is
announced once it has been saved.
-/
namespace Moderation.Match
open Number Time Worker

structure Summarizer where
  book : Book
  office : Office

namespace Summarizer

def handle (s : Summarizer) (fresh : MatchId) (now : Instant) (e : Event) :
    Except Overflow (Transition × Summarizer) := do
  let (t, book) ← s.book.handle fresh now e
  match t with
  | .sealed m => return (t, ⟨book, s.office.place (.saveMatch m)⟩)
  | _ => return (t, { s with book })

def settle (s : Summarizer) (now : Instant) : Summarizer :=
  { s with office := s.office.settle now }

end Summarizer
end Moderation.Match
