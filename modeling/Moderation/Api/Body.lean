import Moderation.Json.Skip
/-!
The body of a request with log lines: an object with the member `lines`, or an array of that one
value. Other members of the object are passed over. Reading stops at the first fault and at the end
of the first value; what comes after it is not looked at.
-/
namespace Moderation.Api
open Json

inductive BodyError where
  | malformed
  | unfit
  deriving DecidableEq

namespace Body

abbrev Read := Except BodyError

def ofJson {α : Type} : Json.Read α → Read α
  | .ok a => .ok a
  | .error _ => .error .malformed

/-- Refuses what is not a value of the kind expected. A word, number or string is read to its end
first, and may turn out to be malformed. -/
def refuse (s : List Char) : BodyError :=
  let verdict {α : Type} : Json.Read α → BodyError
    | .ok _ => .unfit
    | .error _ => .malformed
  match s with
  | [] => .malformed
  | 'n' :: s => verdict (word "ull".toList s)
  | 't' :: s => verdict (word "rue".toList s)
  | 'f' :: s => verdict (word "alse".toList s)
  | '"' :: s => verdict (readString s)
  | '-' :: s => verdict (readNumber true s)
  | '[' :: _ => .unfit
  | '{' :: _ => .unfit
  | s => verdict (readNumber false s)

/-- Reads the strings of an array from the first one on, which is there; `done` holds those read so
far, the last one first. -/
def strings : Nat → List String → List Char → Read (List String × List Char)
  | 0, _, _ => .error .malformed
  | fuel + 1, done, s =>
    match skipSpace s with
    | '"' :: s => do
      let (line, rest) ← ofJson (readString s)
      match skipSpace rest with
      | ']' :: rest => return ((line :: done).reverse, rest)
      | ',' :: rest => strings fuel (line :: done) rest
      | _ => .error .malformed
    | s => .error (refuse s)

def lines (s : List Char) : Read (List String × List Char) :=
  match skipSpace s with
  | '[' :: s => match skipSpace s with
    | ']' :: rest => .ok ([], rest)
    | s => strings (s.length + 1) [] s
  | s => .error (refuse s)

/-- Reads the members of an object from the first one on, which is there; `found` holds the lines
if they have come. -/
def members : Nat → Option (List String) → List Char → Read (List String)
  | 0, _, _ => .error .malformed
  | fuel + 1, found, s =>
    match skipSpace s with
    | '"' :: s => do
      let (name, rest) ← ofJson (readString s)
      if name = "lines" ∧ found.isSome then .error .unfit
      else
        let rest ← ofJson (word [':'] (skipSpace rest))
        let (found, rest) ← if name = "lines" then do
            let (found, rest) ← lines rest
            pure (some found, rest)
          else do pure (found, ← ofJson (skipValue rest))
        match skipSpace rest, found with
        | '}' :: _, some found => return found
        | '}' :: _, none => .error .unfit
        | ',' :: rest, _ => members fuel found rest
        | _, _ => .error .malformed
    | _ => .error .malformed

def read (s : List Char) : Read (List String) :=
  match skipSpace s with
  | '{' :: s => match skipSpace s with
    | '}' :: _ => .error .unfit
    | s => members (s.length + 1) none s
  | '[' :: s => match skipSpace s with
    | ']' :: _ => .error .unfit
    | s => do
      let (found, rest) ← lines s
      match skipSpace rest with
      | ']' :: _ => return found
      | _ => .error .malformed
  | s => .error (refuse s)

end Body
end Moderation.Api
