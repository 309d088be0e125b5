import Moderation.Pattern.Charset
import Moderation.Text.Numeral
import Moderation.Unicode.Property
import Moderation.Unicode.Script
/-!
The named sets of characters of patterns: properties, general categories and scripts. Names are
compared without regard to case, blanks, hyphens and underscores, and a leading `is` does not count.
-/
namespace Moderation.Pattern
open Unicode

def plainName (s : List Char) : String :=
  let (isName, rest) := match s with
    | 'i' :: 's' :: r => (true, r)
    | 'I' :: 'S' :: r => (true, r)
    | 'i' :: 'S' :: r => (true, r)
    | 'I' :: 's' :: r => (true, r)
    | s => (false, s)
  let plain := (rest.filter fun c => c ≠ ' ' && c ≠ '_' && c ≠ '-' && c.toNat < 128).map
    fun c => if 65 ≤ c.toNat ∧ c.toNat ≤ 90 then Char.ofNat (c.toNat + 32) else c
  if isName && plain = ['c'] then "isc" else String.ofList plain

def categorySet (names : List String) : Charset :=
  .ofRanges ((categories.filter fun (n, _) => names.contains n).map (·.2))

def whiteSpace : Charset := .ofRanges
  [(9, 13), (0x20, 0x20), (0x85, 0x85), (0xA0, 0xA0), (0x1680, 0x1680), (0x2000, 0x200A),
    (0x2028, 0x2029), (0x202F, 0x202F), (0x205F, 0x205F), (0x3000, 0x3000)]

def digits : Charset := .ofRanges digitRanges

def wordChars : Charset := .ofRanges (alphabeticRanges ++ digitRanges ++ wordJoinerRanges)

def categoryNames : List (String × List String × List String) := [
  ("lu", ["uppercaseletter"], ["Lu"]), ("ll", ["lowercaseletter"], ["Ll"]),
  ("lt", ["titlecaseletter"], ["Lt"]), ("lc", ["casedletter"], ["Lu", "Ll", "Lt"]),
  ("lm", ["modifierletter"], ["Lm"]), ("lo", ["otherletter"], ["Lo"]),
  ("l", ["letter"], ["Lu", "Ll", "Lt", "Lm", "Lo"]),
  ("mn", ["nonspacingmark"], ["Mn"]), ("mc", ["spacingmark"], ["Mc"]),
  ("me", ["enclosingmark"], ["Me"]), ("m", ["mark", "combiningmark"], ["Mn", "Mc", "Me"]),
  ("nd", ["decimalnumber", "digit"], ["Nd"]), ("nl", ["letternumber"], ["Nl"]),
  ("no", ["othernumber"], ["No"]), ("n", ["number"], ["Nd", "Nl", "No"]),
  ("pc", ["connectorpunctuation"], ["Pc"]), ("pd", ["dashpunctuation"], ["Pd"]),
  ("ps", ["openpunctuation"], ["Ps"]), ("pe", ["closepunctuation"], ["Pe"]),
  ("pi", ["initialpunctuation"], ["Pi"]), ("pf", ["finalpunctuation"], ["Pf"]),
  ("po", ["otherpunctuation"], ["Po"]),
  ("p", ["punctuation", "punct"], ["Pc", "Pd", "Ps", "Pe", "Pi", "Pf", "Po"]),
  ("sm", ["mathsymbol"], ["Sm"]), ("sc", ["currencysymbol"], ["Sc"]),
  ("sk", ["modifiersymbol"], ["Sk"]), ("so", ["othersymbol"], ["So"]),
  ("s", ["symbol"], ["Sm", "Sc", "Sk", "So"]),
  ("zs", ["spaceseparator"], ["Zs"]), ("zl", ["lineseparator"], ["Zl"]),
  ("zp", ["paragraphseparator"], ["Zp"]), ("z", ["separator"], ["Zs", "Zl", "Zp"]),
  ("cc", ["control", "cntrl"], ["Cc"]), ("cf", ["format"], ["Cf"]),
  ("co", ["privateuse"], ["Co"]), ("cn", ["unassigned"], ["Cn"]),
  ("c", ["other"], ["Cc", "Cf", "Cs", "Co", "Cn"])]

def category? (name : String) : Option Charset :=
  if name = "any" then some (.range 0 Charset.top)
  else if name = "ascii" then some (.range 0 127)
  else if name = "assigned" then some (categorySet ["Cn"]).complement
  else (categoryNames.find? fun (short, long, _) => short = name || long.contains name).map
    fun (_, _, names) => categorySet names

def scriptCode? (name : String) : Option String :=
  (scriptNames.find? fun (code, long) =>
    plainName code.toList = name || plainName long.toList = name ||
      (code = "Zinh" && name = "qaai") || (code = "Copt" && name = "qaac")).map (·.1)

def scriptSet (code : String) : Charset :=
  .ofRanges ((scripts.filter (·.1 = code)).map (·.2))

def script? (name : String) : Option Charset := (scriptCode? name).map scriptSet

/-- The characters that are used with a script: those of its extensions, and those of the script
itself unless they are used with others. -/
def scriptExtension? (name : String) : Option Charset :=
  (scriptCode? name).map fun code =>
    let extended := scriptExtensions.filter (·.1 = code)
    let own := if code = "Zyyy" ∨ code = "Zinh" then
      (scriptSet code).diff (.ofRanges (scriptExtensions.map (·.2)))
    else scriptSet code
    own.union (.ofRanges (extended.map (·.2)))

def property? (name : String) : Option Charset :=
  if ["alphabetic", "alpha"].contains name then some (.ofRanges alphabeticRanges)
  else if ["lowercase", "lower"].contains name then some (.ofRanges lowercaseRanges)
  else if ["uppercase", "upper"].contains name then some (.ofRanges uppercaseRanges)
  else if ["whitespace", "wspace", "space"].contains name then some whiteSpace
  else if name = "cased" then some (.ofRanges casedRanges)
  else if ["caseignorable", "ci"].contains name then some (.ofRanges caseIgnorableRanges)
  else if name = "emoji" then some (.ofRanges emojiRanges)
  else if ["emojipresentation", "epres"].contains name then some (.ofRanges emojiPresentationRanges)
  else if ["extendedpictographic", "extpict"].contains name then
    some (.ofRanges extendedPictographicRanges)
  else if ["graphemeextend", "grext"].contains name then some (.ofRanges graphemeExtendRanges)
  else if ["ideographic", "ideo"].contains name then some (.ofRanges ideographicRanges)
  else if ["joincontrol", "joinc"].contains name then some (.range 0x200C 0x200D)
  else if ["asciihexdigit", "ahex"].contains name then
    some (.ofRanges [(48, 57), (65, 70), (97, 102)])
  else if ["hexdigit", "hex"].contains name then
    some (.ofRanges [(48, 57), (65, 70), (97, 102), (0xFF10, 0xFF19), (0xFF21, 0xFF26),
      (0xFF41, 0xFF46)])
  else none

def named? (s : List Char) : Option Charset :=
  let name := plainName s
  if ["cf", "sc", "lc"].contains name then category? name
  else property? name <|> category? name <|> script? name

def valued? (name value : List Char) : Option Charset :=
  let name := plainName name
  let value := plainName value
  if ["generalcategory", "gc"].contains name then category? value
  else if ["script", "sc"].contains name then script? value
  else if ["scriptextensions", "scx"].contains name then scriptExtension? value
  else none

def asciiClass? : String → Option Charset
  | "alnum" => some (.ofRanges [(48, 57), (65, 90), (97, 122)])
  | "alpha" => some (.ofRanges [(65, 90), (97, 122)])
  | "ascii" => some (.range 0 127)
  | "blank" => some (.ofRanges [(9, 9), (32, 32)])
  | "cntrl" => some (.ofRanges [(0, 31), (127, 127)])
  | "digit" => some (.range 48 57)
  | "graph" => some (.range 33 126)
  | "lower" => some (.range 97 122)
  | "print" => some (.range 32 126)
  | "punct" => some (.ofRanges [(33, 47), (58, 64), (91, 96), (123, 126)])
  | "space" => some (.ofRanges [(9, 13), (32, 32)])
  | "upper" => some (.range 65 90)
  | "word" => some (.ofRanges [(48, 57), (65, 90), (95, 95), (97, 122)])
  | "xdigit" => some (.ofRanges [(48, 57), (65, 70), (97, 102)])
  | _ => none

end Moderation.Pattern
