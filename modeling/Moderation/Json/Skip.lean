import Moderation.Json.Token
/-!
Passing over a JSON value whose content does not matter. Arrays and objects may nest to any depth,
and numbers may be of any size.
-/
namespace Moderation.Json

def skipDigits (s : List Char) : Read (List Char) :=
  let rest := s.dropWhile Text.isDigit
  if rest.length = s.length then .error ⟨⟩ else .ok rest

def skipExponent (s : List Char) : Read (List Char) :=
  match s with
  | c :: s =>
    if c = 'e' ∨ c = 'E' then
      match s with
      | '+' :: s => skipDigits s
      | '-' :: s => skipDigits s
      | s => skipDigits s
    else .ok (c :: s)
  | [] => .ok []

def skipNumber (s : List Char) : Read (List Char) := do
  let rest ← skipDigits s
  if s.head? = some '0' ∧ rest.length + 1 < s.length then .error ⟨⟩
  else match rest with
    | '.' :: places => skipExponent (← skipDigits places)
    | rest => skipExponent rest

inductive Opened where
  | array
  | object
  deriving DecidableEq

def Opened.closer : Opened → Char
  | array => ']'
  | object => '}'

def skipName (o : Opened) (s : List Char) : Read (List Char) :=
  match o, skipSpace s with
  | .array, s => .ok s
  | .object, '"' :: s => do
    let rest ← skipString (s.length + 1) s
    word [':'] (skipSpace rest)
  | .object, _ => .error ⟨⟩

mutual

/-- Passes over a value and closes what is open around it. -/
def skipInside (fuel : Nat) (around : List Opened) (s : List Char) : Read (List Char) :=
  match fuel with
  | 0 => .error ⟨⟩
  | fuel + 1 =>
    match skipSpace s with
    | 'n' :: s => do skipClosers fuel around (← word "ull".toList s)
    | 't' :: s => do skipClosers fuel around (← word "rue".toList s)
    | 'f' :: s => do skipClosers fuel around (← word "alse".toList s)
    | '"' :: s => do skipClosers fuel around (← skipString (s.length + 1) s)
    | '-' :: s => do skipClosers fuel around (← skipNumber s)
    | '[' :: s => skipOpened fuel .array around s
    | '{' :: s => skipOpened fuel .object around s
    | s => do skipClosers fuel around (← skipNumber s)

def skipOpened (fuel : Nat) (o : Opened) (around : List Opened) (s : List Char) :
    Read (List Char) :=
  match fuel with
  | 0 => .error ⟨⟩
  | fuel + 1 =>
    match word [o.closer] (skipSpace s) with
    | .ok rest => skipClosers fuel around rest
    | .error _ => do skipInside fuel (o :: around) (← skipName o s)

def skipClosers (fuel : Nat) (around : List Opened) (s : List Char) : Read (List Char) :=
  match fuel, around with
  | _, [] => .ok s
  | 0, _ => .error ⟨⟩
  | fuel + 1, o :: around =>
    match skipSpace s with
    | ',' :: s => do skipInside fuel (o :: around) (← skipName o s)
    | s => do skipClosers fuel around (← word [o.closer] s)

end

def skipValue (s : List Char) : Read (List Char) := skipInside (3 * s.length + 3) [] s

end Moderation.Json
