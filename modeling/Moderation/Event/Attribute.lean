import Moderation.Number.Double
import Moderation.Number.Range
import Moderation.Table
import Moderation.Text.Numeral
/-!
Attributes: the further properties of an event. A property of a log line is a text; it becomes a
number if it reads as one.
-/
namespace Moderation
open Number Text

inductive Attribute where
  | integer (value : Int)
  | real (value : Double)
  | bool (value : Bool)
  | text (value : String)
  deriving DecidableEq

namespace Attribute

/-- The attribute that a text gives: a 64-bit integer, else a decimal number, else the text. -/
def ofText (s : String) : Attribute :=
  match (integer? s.toList).bind int64.check? with
  | some n => .integer n
  | none => match Double.ofText? s.toList with
    | some x => .real x
    | none => .text s

def integer? : Attribute → Option Int
  | .integer n => some n
  | _ => none

def text? : Attribute → Option String
  | .text s => some s
  | _ => none

/-- A truth value; an integer counts as true unless it is zero. -/
def bool? : Attribute → Option Bool
  | .bool b => some b
  | .integer n => some (n ≠ 0)
  | _ => none

end Attribute

abbrev Attributes := Table String Attribute

namespace Attributes

def insertText (as : Attributes) (key text : String) : Attributes :=
  as.insert key (.ofText text)

def integer? (as : Attributes) (key : String) : Option Int := (as.get? key).bind (·.integer?)

def text? (as : Attributes) (key : String) : Option String := (as.get? key).bind (·.text?)

def bool? (as : Attributes) (key : String) : Option Bool := (as.get? key).bind (·.bool?)

end Attributes
end Moderation
