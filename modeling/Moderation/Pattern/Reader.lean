import Moderation.Pattern.Property
import Moderation.Pattern.Syntax
import Moderation.Text.Affix
import Moderation.Text.Blank
import Moderation.Text.Hex
/-!
Reading patterns. Each part comes with the depth of its nesting; nothing is returned for a text
that is no pattern. Looking ahead or behind and references to groups are not part of patterns.
-/
namespace Moderation.Pattern
open Text

/-- What inline flags such as `(?i)` change, up to the end of the group they stand in. -/
structure Flags where
  ignoreCase : Bool
  multiLine : Bool
  dotAll : Bool
  swapGreed : Bool
  unicode : Bool
  verbose : Bool
  breaks : Bool

def Flags.initial : Flags := ⟨true, false, false, false, true, false, false⟩

/-- A part with the depth of its nesting; flags alone cannot be repeated. -/
structure Part where
  node : Node
  depth : Nat
  repeatable : Bool

def skipVerbose (fuel : Nat) (s : List Char) : List Char :=
  match fuel with
  | 0 => s
  | fuel + 1 =>
    match s with
    | [] => []
    | c :: r =>
      if isBlank c then skipVerbose fuel r
      else if c = '#' then skipVerbose fuel ((r.dropWhile (· ≠ '\n')).drop 1)
      else s

def skip (f : Flags) (s : List Char) : List Char :=
  if f.verbose then skipVerbose s.length s else s

/-- What an escape stands for. A `byte` is a character given by two hexadecimal digits. -/
inductive Atom where
  | char (c : Char) (byte : Bool)
  | set (s : Charset)
  | look (condition : Look)

/-! ### Escapes -/

def charOf? (n : Nat) : Option Char := if n.isValidChar then some (Char.ofNat n) else none

def hexDigits (f : Flags) (value : Nat) : Nat → List Char → Option (Nat × List Char)
  | 0, s => some (value, s)
  | count + 1, c :: s => do hexDigits f (16 * value + (← Hex.digit? c)) count (skip f s)
  | _ + 1, [] => none

def hexBraced (f : Flags) (value count fuel : Nat) (s : List Char) : Option (Nat × List Char) :=
  match fuel with
  | 0 => none
  | fuel + 1 =>
    match s with
    | [] => none
    | c :: r =>
      if c = '\x7d' then if count = 0 then none else some (value, skip f r)
      else do hexBraced f (16 * value + (← Hex.digit? c)) (count + 1) fuel (skip f r)

def hexEscape (f : Flags) (width : Nat) (s : List Char) : Option (Atom × List Char) := do
  let s := skip f s
  match s with
  | '\x7b' :: r =>
    let (n, rest) ← hexBraced f 0 0 (r.length + 1) (skip f r)
    return (.char (← charOf? n) false, rest)
  | s =>
    let (n, rest) ← hexDigits f 0 width s
    return (.char (← charOf? n) (width = 2), rest)

def isMeta (c : Char) : Bool :=
  ['\\', '.', '+', '*', '?', '(', ')', '|', '[', ']', '\x7b', '\x7d', '^', '$', '#', '&', '-',
    '~'].contains c

def isEscapable (c : Char) : Bool :=
  c.toNat < 128 && !isAsciiAlphanumeric c && c ≠ '<' && c ≠ '>'

def Flags.close (f : Flags) (s : Charset) : Charset :=
  if !f.ignoreCase then s else if f.unicode then s.closeCase else s.closeAsciiCase

/-- The complement of a set. Without the flag for Unicode a set must stay within ASCII. -/
def Flags.negate (f : Flags) (negated : Bool) (s : Charset) : Option Charset :=
  let s := if negated then s.complement else s
  if f.unicode || s.isAscii then some s else none

def classEscape (f : Flags) (c : Char) : Option Charset :=
  let lower := asciiLower c
  let set :=
    if lower = 'd' then if f.unicode then digits else .range 48 57
    else if lower = 's' then
      if f.unicode then whiteSpace else .ofRanges [(9, 13), (32, 32)]
    else if f.unicode then wordChars
    else .ofRanges [(48, 57), (65, 90), (95, 95), (97, 122)]
  f.negate (c ≠ lower) set

def splitAt? (mark : List Char) : List Char → Option (List Char × List Char)
  | [] => none
  | c :: s => match dropPrefix? mark (c :: s) with
    | some rest => some ([], rest)
    | none => (splitAt? mark s).map fun (a, b) => (c :: a, b)

def propertySet? (s : List Char) : Option (Charset × Bool) :=
  match splitAt? ['!', '='] s with
  | some (name, value) => (valued? name value).map (·, true)
  | none => match splitAt? [':'] s with
    | some (name, value) => (valued? name value).map (·, false)
    | none => match splitAt? ['='] s with
      | some (name, value) => (valued? name value).map (·, false)
      | none => (named? s).map (·, false)

def propertyName (f : Flags) (fuel : Nat) (s : List Char) : Option (List Char × List Char) :=
  match fuel with
  | 0 => none
  | fuel + 1 =>
    match s with
    | [] => none
    | c :: r =>
      if c = '\x7d' then some ([], r)
      else (propertyName f fuel (skip f r)).map fun (name, rest) => (c :: name, rest)

def propertyEscape (f : Flags) (negated : Bool) (s : List Char) : Option (Atom × List Char) := do
  if !f.unicode then none
  match skip f s with
  | [] => none
  | c :: r =>
    let (set, flip, rest) ←
      if c = '\x7b' then do
        let (name, rest) ← propertyName f (r.length + 1) (skip f r)
        let (set, flip) ← propertySet? name
        some (set, flip, rest)
      else if c = '\\' then none
      else do some (← category? (plainName [c]) <|> named? [c], false, skip f r)
    return (.set (← f.negate (negated != flip) (f.close set)), rest)

/-- Reads the kind of word edge in braces; nothing inside if they hold something else. -/
def edgeName (f : Flags) (fuel : Nat) (s : List Char) : Option (List Char × List Char) :=
  match fuel with
  | 0 => none
  | fuel + 1 =>
    match s with
    | [] => none
    | c :: r =>
      if c = '\x7d' then some ([], r)
      else if isAsciiAlphanumeric c && !isDigit c || c = '-' then
        (edgeName f fuel (skip f r)).map fun (name, rest) => (c :: name, rest)
      else none

def edgeEscape (f : Flags) (s : List Char) : Option (Atom × List Char) :=
  let plain := some (Atom.look (.word f.unicode .edge), s)
  match s with
  | '\x7b' :: r =>
    match skip f r with
    | [] => none
    | c :: r =>
      if isAsciiAlphanumeric c && !isDigit c || c = '-' then do
        let (name, rest) ← edgeName f (r.length + 2) (c :: r)
        let kind ← match String.ofList name with
          | "start" => some WordEdge.start
          | "end" => some .finish
          | "start-half" => some .startHalf
          | "end-half" => some .finishHalf
          | _ => none
        some (.look (.word f.unicode kind), rest)
      else plain
  | _ => plain

def escape (f : Flags) : List Char → Option (Atom × List Char)
  | [] => none
  | c :: s =>
    if isDigit c then none
    else if c = 'x' then hexEscape f 2 s
    else if c = 'u' then hexEscape f 4 s
    else if c = 'U' then hexEscape f 8 s
    else if c = 'p' ∨ c = 'P' then propertyEscape f (c = 'P') s
    else if ['d', 's', 'w', 'D', 'S', 'W'].contains c then do
      some (.set (← classEscape f c), s)
    else if isMeta c || isEscapable c then some (.char c false, s)
    else
      let char (n : Nat) := some (Atom.char (Char.ofNat n) false, s)
      let look (l : Look) := some (Atom.look l, s)
      match c with
      | 'a' => char 7
      | 'f' => char 12
      | 't' => char 9
      | 'n' => char 10
      | 'r' => char 13
      | 'v' => char 11
      | 'A' => look .textStart
      | 'z' => look .textEnd
      | 'b' => edgeEscape f s
      | 'B' => look (.word f.unicode .noEdge)
      | '<' => look (.word f.unicode .start)
      | '>' => look (.word f.unicode .finish)
      | _ => none

def literal (f : Flags) (c : Char) (byte : Bool) : Option Node :=
  if !f.unicode && byte && 127 < c.toNat then none
  else some (.set (if !f.unicode && 127 < c.toNat then .single c.toNat
    else f.close (.single c.toNat)))

def Atom.node (f : Flags) : Atom → Option Node
  | .char c byte => literal f c byte
  | .set s => some (.set s)
  | .look l => some (.look l)

/-! ### Bracketed classes -/

/-- The operations between the parts of a class, all of one precedence. -/
inductive ClassOp where
  | inter
  | diff
  | symmDiff

/-- A part of a class under construction: the union so far, how many items it has, and the depth of
the deepest one. -/
structure ClassPart where
  set : Charset
  items : Nat
  depth : Nat

namespace ClassPart

def none : ClassPart := ⟨.empty, 0, 0⟩

def add (p : ClassPart) (s : Charset) (depth : Nat) : ClassPart :=
  ⟨p.set.union s, p.items + 1, max p.depth depth⟩

def unionDepth (p : ClassPart) : Nat := if 2 ≤ p.items then p.depth + 1 else p.depth

end ClassPart

/-- What stands before the part under construction, with the operation between them. -/
abbrev Pending := Option (Charset × Nat × ClassOp)

def resolve (f : Flags) (before : Pending) (p : ClassPart) : Charset × Nat :=
  match before with
  | none => (p.set, p.unionDepth)
  | some (lhs, depth, op) =>
    let lhs := f.close lhs
    let rhs := f.close p.set
    let set := match op with
      | .inter => lhs.inter rhs
      | .diff => lhs.diff rhs
      | .symmDiff => lhs.symmDiff rhs
    (set, 1 + max depth p.unionDepth)

def asciiItem (f : Flags) (s : List Char) : Option (Charset × List Char) := do
  let s ← dropPrefix? [':'] s
  let (negated, s) := match s with
    | '^' :: s => (true, s)
    | s => (false, s)
  let name := s.takeWhile (· ≠ ':')
  let rest ← dropPrefix? [':', ']'] (s.drop name.length)
  let set ← asciiClass? (String.ofList name)
  return (← f.negate negated (f.close set), rest)

def classAtom (f : Flags) : List Char → Option (Atom × List Char)
  | [] => none
  | '\\' :: s => escape f s
  | c :: s => some (.char c false, s)

def endpoint? (f : Flags) : Atom → Option Nat
  | .char c _ => if f.unicode || c.toNat < 128 then some c.toNat else none
  | _ => none

def peekBehind (f : Flags) (s : List Char) : Option Char :=
  let s := s.drop 1
  if !f.verbose then s.head?
  else match s.dropWhile isBlank with
    | '#' :: s => (s.dropWhile isBlank).head?
    | s => s.head?

def classItem (f : Flags) (s : List Char) : Option (Charset × List Char) := do
  let (a, s) ← classAtom f s
  let s := skip f s
  let next ← s.head?
  let behind := peekBehind f s
  if next ≠ '-' ∨ behind = some ']' ∨ behind = some '-' then
    match a with
    | .set set => return (set, s)
    | .look _ => none
    | a => return (.single (← endpoint? f a), s)
  else
    let s := skip f (s.drop 1)
    let (b, s) ← classAtom f s
    let first ← endpoint? f a
    let last ← endpoint? f b
    if first ≤ last then return (.range first last, s) else none

def leadingHyphens (f : Flags) (p : ClassPart) : Nat → List Char → ClassPart × List Char
  | 0, s => (p, s)
  | fuel + 1, s => match s with
    | '-' :: r => leadingHyphens f (p.add (.single 45) 0) fuel (skip f r)
    | s => (p, s)

/-- Reads the start of a class after its bracket: the sign of negation, and characters that are
plain here only. -/
def classStart (f : Flags) (s : List Char) : Bool × ClassPart × List Char :=
  let (negated, s) := match skip f s with
    | '^' :: s => (true, skip f s)
    | s => (false, s)
  let (p, s) := leadingHyphens f .none s.length s
  match s with
  | ']' :: r =>
    if p.items = 0 then (negated, p.add (.single 93) 0, skip f r) else (negated, p, s)
  | s => (negated, p, s)

def classBody (f : Flags) (fuel : Nat) (before : Pending) (p : ClassPart) (s : List Char) :
    Option ((Charset × Nat) × List Char) :=
  match fuel with
  | 0 => none
  | fuel + 1 =>
    let step (op : ClassOp) (rest : List Char) :=
      let (set, depth) := resolve f before p
      classBody f fuel (some (set, depth, op)) .none rest
    match skip f s with
    | [] => none
    | ']' :: rest => some (resolve f before p, rest)
    | '&' :: '&' :: rest => step .inter rest
    | '-' :: '-' :: rest => step .diff rest
    | '~' :: '~' :: rest => step .symmDiff rest
    | '[' :: rest =>
      match asciiItem f rest with
      | some (set, rest) => classBody f fuel before (p.add set 0) rest
      | none => do
        let (negated, q, rest) := classStart f rest
        let ((set, depth), rest) ← classBody f fuel none q rest
        classBody f fuel before (p.add (← f.negate negated (f.close set)) (depth + 1)) rest
    | s => do
      let (set, rest) ← classItem f s
      classBody f fuel before (p.add set 0) rest

def bracketed (f : Flags) (s : List Char) : Option (Part × List Char) := do
  let (negated, p, rest) := classStart f s
  let ((set, depth), rest) ← classBody f (s.length + 1) none p rest
  return (⟨.set (← f.negate negated (f.close set)), depth + 1, true⟩, rest)

/-! ### Repetitions -/

def count? (f : Flags) (s : List Char) : Option Nat × List Char :=
  let s := s.dropWhile isBlank
  let rec take (n k : Nat) : Nat → List Char → Option Nat × List Char
    | 0, s => (none, s)
    | fuel + 1, s => match s with
      | c :: r =>
        if isDigit c then take (10 * n + digitValue c) (k + 1) fuel (skip f r)
        else (if k = 0 then none else some n, skip f (s.dropWhile isBlank))
      | [] => (if k = 0 then none else some n, [])
  take 0 0 (s.length + 1) s

def small? (n : Option Nat) : Option Nat := n.filter (· < Nat.pow 2 32)

def bounds (f : Flags) (s : List Char) : Option ((Nat × Option Nat) × List Char) := do
  let (first, s) := count? f (skip f s)
  match s with
  | ',' :: s =>
    match skip f s with
    | '\x7d' :: rest => return ((← small? first, none), rest)
    | s =>
      let min ← small? first
      let (second, s) := count? f s
      let max ← small? second
      match s with
      | '\x7d' :: rest => if min ≤ max then return ((min, some max), rest) else none
      | _ => none
  | '\x7d' :: rest =>
    let n ← small? first
    return ((n, some n), rest)
  | _ => none

def repeatPart (f : Flags) (min : Nat) (max : Option Nat) (lazy : Bool) (p : Part) : Option Part :=
  if p.repeatable then
    some ⟨.repeated (if f.swapGreed then lazy else !lazy) min max p.node, p.depth + 1, true⟩
  else none

def lazyMark : List Char → Bool × List Char
  | '?' :: s => (true, s)
  | s => (false, s)

/-! ### Groups -/

def Flags.set? (f : Flags) (c : Char) (on : Bool) : Option Flags :=
  match c with
  | 'i' => some { f with ignoreCase := on }
  | 'm' => some { f with multiLine := on }
  | 's' => some { f with dotAll := on }
  | 'U' => some { f with swapGreed := on }
  | 'u' => some { f with unicode := on }
  | 'x' => some { f with verbose := on }
  | 'R' => some { f with breaks := on }
  | _ => none

/-- Reads flags up to a colon or closing parenthesis. Each letter stands at most once, and so does
the sign before the letters that are switched off, which may not be the last. -/
def readFlags (f : Flags) (seen : List Char) : List Char → Option (Flags × List Char × List Char)
  | [] => none
  | c :: s =>
    if c = ':' ∨ c = ')' then
      if seen.head? = some '-' then none else some (f, seen, c :: s)
    else if seen.contains c then none
    else if c = '-' then readFlags f (c :: seen) s
    else do readFlags (← f.set? c (!seen.contains '-')) (c :: seen) s

def groupName? (s : List Char) : Option (List Char × List Char) := do
  let name := s.takeWhile (· ≠ '>')
  let rest ← dropPrefix? ['>'] (s.drop name.length)
  let first ← name.head?
  let isLetter := if first.toNat < 128 then isAsciiAlphanumeric first && !isDigit first
    else inRanges Unicode.alphabeticRanges first.toNat
  let ok := (first = '_' || isLetter) && name.all fun c =>
    c = '_' || c = '.' || c = '[' || c = ']' || isAlphanumeric c
  if ok then return (name, rest) else none

/-- What stands at the start of a parenthesis: flags for the rest of the group around it, or a
group with its own flags. -/
inductive Opening where
  | flags (f : Flags)
  | group (f : Flags) (name : Option (List Char))

def opening (f : Flags) (s : List Char) : Option (Opening × List Char) :=
  let s := skip f s
  let startsWith (p : String) : Bool := (dropPrefix? p.toList s).isSome
  if startsWith "?=" || startsWith "?!" || startsWith "?<=" || startsWith "?<!" then none
  else match dropPrefix? "?P<".toList s <|> dropPrefix? "?<".toList s with
    | some r => (groupName? r).map fun (name, rest) => (.group f (some name), rest)
    | none => match s with
      | '?' :: r => do
        let (g, seen, rest) ← readFlags f [] r
        match rest with
        | ')' :: rest => if seen.isEmpty then none else some (.flags g, rest)
        | _ :: rest => some (.group g none, rest)
        | [] => none
      | s => some (.group f none, s)

/-- Joins parts, given the last one first, one behind the other. -/
def sequence (ps : List Part) : Part :=
  match ps with
  | [p] => p
  | ps => ⟨.seqAll (ps.reverse.map (·.node)),
      if ps.isEmpty then 0 else 1 + (ps.map (·.depth)).foldl max 0, true⟩

def alternatives (ps : List Part) : Part :=
  match ps with
  | [p] => p
  | ps => ⟨.altAll (ps.reverse.map (·.node)), 1 + (ps.map (·.depth)).foldl max 0, true⟩

def anyChar (f : Flags) : Option Charset :=
  if !f.unicode then none
  else if f.dotAll then some (.range 0 Charset.top)
  else if f.breaks then some (Charset.ofRanges [(10, 10), (13, 13)]).complement
  else some (Charset.single 10).complement

def startLook (f : Flags) : Look :=
  if !f.multiLine then .textStart else if f.breaks then .breakStart else .lineStart

def endLook (f : Flags) : Look :=
  if !f.multiLine then .textEnd else if f.breaks then .breakEnd else .lineEnd

structure State where
  rest : List Char
  flags : Flags
  names : List (List Char)

/-- Reads alternatives up to a closing parenthesis or the end. `done` holds the parts of the
alternative under way and `alts` those before it, the last one first. -/
def parts (fuel : Nat) (s : State) (done alts : List Part) : Option (Part × State) :=
  match fuel with
  | 0 => none
  | fuel + 1 =>
    let f := s.flags
    let s := { s with rest := skip f s.rest }
    let goOn (p : Part) (rest : List Char) := parts fuel { s with rest } (p :: done) alts
    let leaf (n : Node) (rest : List Char) := goOn ⟨n, 0, true⟩ rest
    let again (min : Nat) (max : Option Nat) (rest : List Char) : Option (Part × State) := do
      let (lazy, rest) := lazyMark rest
      let p ← repeatPart f min max lazy (← done.head?)
      parts fuel { s with rest } (p :: done.drop 1) alts
    match s.rest with
    | [] => some (alternatives (sequence done :: alts), s)
    | ')' :: _ => some (alternatives (sequence done :: alts), s)
    | '|' :: rest => parts fuel { s with rest } [] (sequence done :: alts)
    | '?' :: rest => again 0 (some 1) rest
    | '*' :: rest => again 0 none rest
    | '+' :: rest => again 1 none rest
    | '\x7b' :: rest => do
      let ((min, max), rest) ← bounds f rest
      again min max (skip f rest)
    | '[' :: rest => do
      let (p, rest) ← bracketed f rest
      goOn p rest
    | '(' :: rest => do
      match ← opening f rest with
      | (.flags g, rest) => parts fuel { s with rest, flags := g } (⟨.empty, 0, false⟩ :: done) alts
      | (.group g name, rest) =>
        let names ← match name with
          | none => some s.names
          | some n => if s.names.contains n then none else some (n :: s.names)
        let (p, t) ← parts fuel ⟨rest, g, names⟩ [] []
        match t.rest with
        | ')' :: rest =>
          parts fuel ⟨rest, f, t.names⟩ (⟨p.node, p.depth + 1, true⟩ :: done) alts
        | _ => none
    | '\\' :: rest => do
      let (a, rest) ← escape f rest
      leaf (← a.node f) rest
    | '.' :: rest => do leaf (.set (← anyChar f)) rest
    | '^' :: rest => leaf (.look (startLook f)) rest
    | '$' :: rest => leaf (.look (endLook f)) rest
    | c :: rest => do leaf (← literal f c false) rest

def Node.ofText? (s : String) : Option Node := do
  let (p, t) ← parts (s.length + 2) ⟨s.toList, .initial, []⟩ [] []
  if t.rest.isEmpty ∧ p.depth ≤ nestingLimit ∧ p.node.cost ≤ costLimit then some p.node else none

end Moderation.Pattern
