import Moderation.Text.Affix
/-!
Media types, such as `application/json; charset=utf-8`. Upper and lower case mean the same. The
parameters have to be well formed, but what they say does not matter.
-/
namespace Moderation.Api
open Text

/-- The last part of a subtype, after a plus sign, is its suffix. -/
structure MediaType where
  main : List Char
  sub : List Char
  suffix : Option (List Char)
  deriving DecidableEq

namespace MediaType

def isTokenChar (c : Char) : Bool := c.isAlphanum || "!#$%&\x27*+-.^_\x60|~".toList.contains c

def isQuotedChar (c : Char) : Bool := 0x20 ≤ c.toNat && c.toNat < 0x7F

inductive Place where
  | separator
  | name
  | valueStart
  | value
  | quoteStart
  | quoted
  | unquoted
  deriving DecidableEq

/-- The place after a character, if it may stand there. The first character inside quotes may be a
quote itself. -/
def Place.next? : Place → Char → Option Place
  | .separator, c => if c = ' ' then some .separator else if isTokenChar c then some .name else none
  | .name, c => if c = '=' then some .valueStart else if isTokenChar c then some .name else none
  | .valueStart, c => if c = '"' then some .quoteStart else if isTokenChar c then some .value else none
  | .value, c => if c = ';' then some .separator else if isTokenChar c then some .value else none
  | .quoteStart, c => if isQuotedChar c then some .quoted else none
  | .quoted, c => if c = '"' then some .unquoted else if isQuotedChar c then some .quoted else none
  | .unquoted, c => if c = ';' then some .separator else if c = ' ' then some .unquoted else none

def Place.isEnd : Place → Bool
  | .separator | .valueStart | .value | .unquoted => true
  | _ => false

def areParameters (s : List Char) : Bool := (s.foldlM Place.next? .separator).any Place.isEnd

/-- Splits a subtype at its last plus sign, unless that is its first character. -/
def splitSuffix (sub : List Char) : List Char × Option (List Char) :=
  let suffix := sub.reverse.takeWhile (· ≠ '+')
  match (sub.reverse.dropWhile (· ≠ '+')).drop 1 with
  | [] => (sub, none)
  | rest => (rest.reverse, some suffix.reverse)

def ofText? (s : List Char) : Option MediaType :=
  let lower := s.map asciiLower
  let (main, rest) := lower.span isTokenChar
  match rest with
  | '/' :: rest =>
    let (whole, rest) := rest.span isTokenChar
    let (sub, suffix) := splitSuffix whole
    let ok := match rest with
      | [] => true
      | c :: parameters => c = ';' && !whole.isEmpty && areParameters parameters
    if !main.isEmpty && ok then some ⟨main, sub, suffix⟩ else none
  | _ => none

def IsJson (t : MediaType) : Prop :=
  t.main = "application".toList ∧ (t.sub = "json".toList ∨ t.suffix = some "json".toList)

instance (t : MediaType) : Decidable t.IsJson := by unfold IsJson; infer_instance

end MediaType
end Moderation.Api
