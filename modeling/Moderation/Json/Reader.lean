import Moderation.Json.Token
/-!
Reading a JSON value. Arrays and objects nest at most 127 deep.
-/
namespace Moderation.Json

/-- Arrays and objects open at one time stay below this number. -/
def nestingLimit : Nat := 128

mutual

/-- Reads one value, with `depth` levels of nesting left. -/
def value (fuel depth : Nat) (s : List Char) : Read (Json × List Char) :=
  match fuel with
  | 0 => .error ⟨⟩
  | fuel + 1 =>
    match skipSpace s with
    | [] => .error ⟨⟩
    | 'n' :: s => do return (.null, ← word "ull".toList s)
    | 't' :: s => do return (.bool true, ← word "rue".toList s)
    | 'f' :: s => do return (.bool false, ← word "alse".toList s)
    | '-' :: s => readNumber true s
    | '"' :: s => do
      let (t, rest) ← readString s
      return (.string t, rest)
    | '[' :: s =>
      if depth ≤ 1 then .error ⟨⟩ else
        match skipSpace s with
        | ']' :: s => .ok (.array [], s)
        | s => do
          let (xs, rest) ← items fuel (depth - 1) s
          return (.array xs, rest)
    | '{' :: s =>
      if depth ≤ 1 then .error ⟨⟩ else
        match skipSpace s with
        | '}' :: s => .ok (.object [], s)
        | s => do
          let (ms, rest) ← members fuel (depth - 1) s
          return (.object ms, rest)
    | c :: s => readNumber false (c :: s)

def items (fuel depth : Nat) (s : List Char) : Read (List Json × List Char) :=
  match fuel with
  | 0 => .error ⟨⟩
  | fuel + 1 => do
    let (x, rest) ← value fuel depth s
    match skipSpace rest with
    | ']' :: rest => return ([x], rest)
    | ',' :: rest =>
      let (xs, rest) ← items fuel depth rest
      return (x :: xs, rest)
    | _ => .error ⟨⟩

def members (fuel depth : Nat) (s : List Char) : Read (List (String × Json) × List Char) :=
  match fuel with
  | 0 => .error ⟨⟩
  | fuel + 1 =>
    match skipSpace s with
    | '"' :: s => do
      let (k, rest) ← readString s
      match skipSpace rest with
      | ':' :: rest =>
        let (v, rest) ← value fuel depth rest
        match skipSpace rest with
        | '}' :: rest => return ([(k, v)], rest)
        | ',' :: rest =>
          let (ms, rest) ← members fuel depth rest
          return ((k, v) :: ms, rest)
        | _ => .error ⟨⟩
      | _ => .error ⟨⟩
    | _ => .error ⟨⟩

end

def first? (s : List Char) : Read (Json × List Char) := value (2 * s.length + 2) nestingLimit s

def ofText? (s : String) : Option Json :=
  match first? s.toList with
  | .ok (v, rest) => if (skipSpace rest).isEmpty then some v else none
  | .error _ => none

end Moderation.Json
