import Moderation.Json.Basic
import Moderation.Text.Hex
/-!
The text of a JSON value, without spaces. A finite double is written out in full, so that the text
has exactly its value; the other doubles have no JSON form and become `null`.
-/
namespace Moderation.Json
open Text

def escape (c : Char) : List Char :=
  if c = '"' then ['\\', '"']
  else if c = '\\' then ['\\', '\\']
  else if c = '\n' then ['\\', 'n']
  else if c = '\r' then ['\\', 'r']
  else if c = '\t' then ['\\', 't']
  else if c.toNat < 0x20 then '\\' :: 'u' :: Hex.digits 4 c.toNat
  else [c]

def quote (s : String) : String := String.ofList ('"' :: s.toList.flatMap escape ++ ['"'])

def expand (x : Number.Double) : String :=
  let (m, e) := x.magnitude
  let sign := if x.isNegative then "-" else ""
  let scaled := m * Nat.pow 2 e * Nat.pow 5 1074
  let places := String.ofList (padded 1074 (scaled % Nat.pow 10 1074))
  sign ++ showNat (scaled / Nat.pow 10 1074) ++ "." ++ places

mutual

def render : Json → String
  | .null => "null"
  | .bool b => if b then "true" else "false"
  | .integer n => showInt n
  | .real x => if x.isFinite then expand x else "null"
  | .string s => quote s
  | .array xs => "[" ++ renderItems xs ++ "]"
  | .object ms => "\x7b" ++ renderMembers ms ++ "\x7d"

def renderItems : List Json → String
  | [] => ""
  | [x] => render x
  | x :: y :: xs => render x ++ "," ++ renderItems (y :: xs)

def renderMembers : List (String × Json) → String
  | [] => ""
  | [(k, v)] => quote k ++ ":" ++ render v
  | (k, v) :: m :: ms => quote k ++ ":" ++ render v ++ "," ++ renderMembers (m :: ms)

end

end Moderation.Json
