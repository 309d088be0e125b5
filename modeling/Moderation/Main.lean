import Moderation.Settings.Startup
/-!
The program: its variables are those of the environment and of the file `.env` in the working
directory or the nearest directory above that has one.
-/
namespace Moderation.Main
open Settings

/-- The variables of the environment, from their list `NAME=value` with zero characters between. -/
def environment (text : String) : Variables :=
  let entries := (text.splitOn "\x00").map fun entry =>
    let name := entry.toList.takeWhile (· ≠ '=')
    (String.ofList name, String.ofList (entry.toList.drop (name.length + 1)))
  fun key => (entries.find? (·.1 = key)).map (·.2)

def places (depth : Nat) : List String :=
  (List.range depth).map fun n => String.join (List.replicate n "../") ++ ".env"

def readFirst : List String → IO (Option String)
  | [] => return none
  | place :: more => do
    try return some (← IO.FS.readFile place) catch _ => readFirst more

end Moderation.Main

def main : IO UInt32 := do
  let text ← try IO.FS.readFile "/proc/self/environ" catch _ => pure ""
  let depth := (← IO.currentDir).components.length
  let file ← Moderation.Main.readFirst (Moderation.Main.places depth)
  IO.eprintln (Moderation.Settings.start (Moderation.Main.environment text) file).report
  return 1
