import Moderation.Event.Player
import Moderation.Time.Instant
/-!
Embeds: what a notice shows. Its texts are cut to the lengths that chat platforms allow, a field
with an empty name or value is left out, and so is every field beyond the twenty-fifth.
-/
namespace Moderation
namespace Notice
open Time

inductive Color where
  | green
  | orange
  | red
  deriving DecidableEq

def Color.rgb : Color → Nat
  | green => 0x2ECC71
  | orange => 0xE67E22
  | red => 0xE74C3C

structure Field where
  name : String
  value : String
  inline : Bool
  deriving DecidableEq

structure Embed where
  title : String
  description : Option String
  url : Option String
  color : Color
  timestamp : Option Instant
  fields : List Field
  deriving DecidableEq

def truncate (s : String) (n : Nat) : String := String.ofList (s.toList.take n)

def maxFields : Nat := 25

def maxTitle : Nat := 256

def maxFieldName : Nat := 256

def maxFieldValue : Nat := 1024

def maxDescription : Nat := 2048

namespace Embed

def titled (title : String) (color : Color) (now : Instant) : Embed :=
  ⟨truncate title maxTitle, none, none, color, some now, []⟩

def describe (e : Embed) (text : String) : Embed :=
  { e with description := some (truncate text maxDescription) }

def link (e : Embed) (url : String) : Embed := { e with url := some url }

/-- Adds a field, if it has both texts and there is room for it. -/
def push (e : Embed) (f : Field) : Embed :=
  if maxFields ≤ e.fields.length ∨ f.name = "" ∨ f.value = "" then e
  else { e with fields := e.fields ++
    [⟨truncate f.name maxFieldName, truncate f.value maxFieldValue, f.inline⟩] }

def add (e : Embed) (name value : String) : Embed := e.push ⟨name, value, false⟩

def addInline (e : Embed) (name value : String) : Embed := e.push ⟨name, value, true⟩

def addSteamId (e : Embed) (id : SteamId) : Embed :=
  ((e.addInline "STEAM" id.steam2).addInline "STEAM3" id.steam3).addInline "SID64" id.text

end Embed

inductive Channel where
  | modLog
  | matchLog
  deriving DecidableEq

def Channel.name : Channel → String
  | modLog => "mod_log"
  | matchLog => "match_log"

end Notice

structure Notice where
  channel : Notice.Channel
  embed : Notice.Embed
  deriving DecidableEq

end Moderation
