import Moderation.Number.Double
import Moderation.Number.Range
/-!
JSON values. Integers that fit 64 bits, signed or not, are kept apart from all other numbers, which
are doubles; the members of an object keep their order and their repetitions.
-/
namespace Moderation

inductive Json where
  | null
  | bool (value : Bool)
  | integer (value : Int)
  | real (value : Number.Double)
  | string (value : String)
  | array (items : List Json)
  | object (members : List (String × Json))

namespace Json

def members? : Json → Option (List (String × Json))
  | .object ms => some ms
  | _ => none

def items? : Json → Option (List Json)
  | .array xs => some xs
  | _ => none

def string? : Json → Option String
  | .string s => some s
  | _ => none

def bool? : Json → Option Bool
  | .bool b => some b
  | _ => none

def integer? (r : Number.Range) : Json → Option Int
  | .integer n => r.check? n
  | _ => none

/-- The member of a name; of a repeated name the last one counts. -/
def member? (name : String) : Json → Option Json
  | .object ms => (ms.reverse.find? (·.1 = name)).map (·.2)
  | _ => none

end Json
end Moderation
