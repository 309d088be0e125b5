import Moderation.Text.Blank
import Moderation.Text.Letter
/-!
Files of variables: lines `NAME=value`, with comments, two kinds of quotes, escapes and references
to variables set before. A value in quotes may go on over several lines.
-/
namespace Moderation.Settings.EnvFile
open Text

inductive Place where
  | plain
  | blank
  | escape
  | single
  | singleEscape
  | double
  | doubleEscape
  deriving DecidableEq

/-- The place after a character; nothing at the start of a comment. -/
def Place.next? : Place → Char → Option Place
  | .blank, '#' => none
  | .plain, c =>
    if isBlank c && c ≠ '\n' && c ≠ '\r' then some .blank else some (outside c)
  | .blank, c => some (outside c)
  | .escape, _ => some .plain
  | .double, '\\' => some .doubleEscape
  | .double, '"' => some .plain
  | .double, _ => some .double
  | .doubleEscape, _ => some .double
  | .single, '\\' => some .singleEscape
  | .single, '\'' => some .plain
  | .single, _ => some .single
  | .singleEscape, _ => some .single
where
  outside : Char → Place
    | '\\' => .escape
    | '"' => .double
    | '\'' => .single
    | _ => .plain

def physicalLines (line : List Char) : List Char → List (List Char)
  | [] => if line.isEmpty then [] else [line.reverse]
  | c :: s =>
    if c = '\n' then (c :: line).reverse :: physicalLines [] s else physicalLines (c :: line) s

/-- Follows a line from a place on; gives the place at its end, or what stands before a comment. -/
def follow (p : Place) (seen : List Char) : List Char → Place ⊕ List Char
  | [] => .inl p
  | c :: s => match p.next? c with
    | some q => follow q (c :: seen) s
    | none => .inr seen.reverse

def chomp (s : List Char) : List Char :=
  match s.reverse with
  | '\n' :: '\r' :: r => r.reverse
  | '\n' :: r => r.reverse
  | _ => s

/-- Joins physical lines to logical ones. Nothing stands for an end of the file within a value,
where reading stops. -/
def logicalLines (before : List Char) (p : Place) : List (List Char) → List (Option (List Char))
  | [] => if p = .plain then [] else [none]
  | line :: rest =>
    let text := before ++ line
    match trimStart text with
    | '#' :: _ => some [] :: logicalLines [] .plain rest
    | _ => match follow p [] line with
      | .inr seen => some (before ++ seen) :: logicalLines [] .plain rest
      | .inl .plain => some (chomp text) :: logicalLines [] .plain rest
      | .inl q => logicalLines text q rest

def name? (s : List Char) : Option (String × List Char) :=
  let inName (c : Char) : Bool := isAsciiAlphanumeric c || c == '_' || c == '.'
  match s with
  | c :: _ =>
    if (isAsciiAlphanumeric c && !(48 ≤ c.toNat && c.toNat ≤ 57)) || c == '_' then
      some (String.ofList (s.takeWhile inName), s.dropWhile inName)
    else none
  | [] => none

/-- A reference to a variable: none under way, a bare name or a name in braces. -/
inductive Reference where
  | none
  | bare (name : List Char)
  | braced (name : List Char)

structure ValueState where
  single : Bool
  double : Bool
  escaped : Bool
  ending : Bool
  done : Bool
  reference : Reference
  output : List Char

namespace ValueState

def start : ValueState := ⟨false, false, false, false, false, .none, []⟩

/-- Adds the value of a variable, whose name is given in reverse. -/
def refer (vars : String → Option String) (name : List Char) (v : ValueState) : ValueState :=
  let text := ((vars (String.ofList name.reverse)).getD "").toList
  { v with output := text.reverse ++ v.output, reference := .none }

def put (c : Char) (v : ValueState) : ValueState := { v with output := c :: v.output }

def next? (vars : String → Option String) (v : ValueState) (c : Char) : Option ValueState :=
  if v.done then some v
  else if v.ending then
    if c = ' ' ∨ c = '\t' then some v else if c = '#' then some { v with done := true } else none
  else if v.escaped then
    if ['\\', '\'', '"', '$', ' '].contains c then some { v.put c with escaped := false }
    else if c = 'n' then some { v.put '\n' with escaped := false }
    else none
  else if v.single then
    some (if c = '\'' then { v with single := false } else v.put c)
  else match v.reference with
  | .bare name =>
    some <|
      if isAlphanumeric c then { v with reference := .bare (c :: name) }
      else if c = '\x7b' ∧ name = [] then { v with reference := .braced [] }
      else if c = '$' then { v.refer vars name with reference := .bare [] }
      else (v.refer vars name).put c
  | .braced name =>
    some (if c = '\x7d' then v.refer vars name else { v with reference := .braced (c :: name) })
  | .none =>
    some <|
      if c = '$' then { v with reference := .bare [] }
      else if v.double then
        if c = '"' then { v with double := false }
        else if c = '\\' then { v with escaped := true }
        else v.put c
      else if c = '\'' then { v with single := true }
      else if c = '"' then { v with double := true }
      else if c = '\\' then { v with escaped := true }
      else if c = ' ' ∨ c = '\t' then { v with ending := true }
      else v.put c

def finish? (vars : String → Option String) (v : ValueState) : Option String :=
  if v.single || v.double then none
  else match v.reference with
  | .braced _ => none
  | .bare name => some (String.ofList (v.refer vars name).output.reverse)
  | .none => some (String.ofList v.output.reverse)

end ValueState

def value? (vars : String → Option String) (s : List Char) : Option String := do
  (← s.foldlM (ValueState.next? vars) .start).finish? vars

inductive Line where
  | empty
  | assign (name value : String)

def startsComment (s : List Char) : Bool := s.isEmpty || s.head? == some '#'

def equals? (s : List Char) : Option (List Char) :=
  match s with
  | '=' :: s => some s
  | _ => none

/-- Reads a name and the equals sign after it; the word `export` may stand before the name. -/
def assigned? (s : List Char) : Option (String × List Char) := do
  let (name, s) ← name? s
  let s := trimStart s
  match equals? s with
  | some s => return (name, s)
  | none =>
    if name = "export" then
      let (name, s) ← name? s
      return (name, ← equals? (trimStart s))
    else none

def line? (vars : String → Option String) (s : List Char) : Option Line := do
  let s := trimStart s
  if startsComment s then return .empty
  let (name, s) ← assigned? s
  let s := trimStart s
  if startsComment s then return .assign name ""
  return .assign name (← value? vars s)

/-- Adds a variable, unless it is set already. -/
def set (vars : String → Option String) (name value : String) : String → Option String :=
  fun k => if k = name ∧ (vars k).isNone then some value else vars k

/-- Adds the variables of logical lines up to the first bad one. A reference means the variable as
it is set, or else its last value in the file. -/
def load (vars file : String → Option String) : List (Option (List Char)) → String → Option String
  | [] => vars
  | none :: _ => vars
  | some s :: rest =>
    match line? (fun k => vars k <|> file k) s with
    | none => vars
    | some .empty => load vars file rest
    | some (.assign name value) =>
      load (set vars name value) (fun k => if k = name then some value else file k) rest

/-- Variables together with those of a file's text. A byte order mark is passed over. -/
def extend (vars : String → Option String) (text : String) : String → Option String :=
  let s := match text.toList with
    | '\uFEFF' :: s => s
    | s => s
  load vars (fun _ => none) (logicalLines [] .plain (physicalLines [] s))

end Moderation.Settings.EnvFile
