import Moderation.Text.Affix
import Moderation.Text.Blank
/-!
What is done to a player, and for what.
-/
namespace Moderation.Ban
open Text

inductive Action where
  | ban
  | kick
  | gag
  deriving DecidableEq

namespace Action

def all : List Action := [ban, kick, gag]

def name : Action → String
  | ban => "ban"
  | kick => "kick"
  | gag => "gag"

/-- Reads a name in any case, with any white space around it. -/
def ofText? (s : String) : Option Action :=
  all.find? (·.name = lowerAscii (String.ofList (trim s.toList)))

end Action

inductive Reason where
  | language
  deriving DecidableEq

namespace Reason

def name : Reason → String
  | language => "language"

def label : Reason → String
  | language => "Language"

end Reason
end Moderation.Ban
