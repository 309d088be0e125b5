import Moderation.Event.Basic
import Moderation.Json.Basic
import Moderation.Time.Rfc3339
/-!
Events as JSON documents. A record is an object with its fields as members, of which unfamiliar ones
are passed over, or an array of all its fields in order. An absent optional field counts as null.
-/
namespace Moderation
open Net Number Time

namespace Json

def record? (names : List String) : Json → Option (List (Option Json))
  | .array xs => if xs.length = names.length then some (xs.map some) else none
  | .object ms => some (names.map fun n => member? n (.object ms))
  | _ => none

/-- A field that may be null or absent. -/
def optional? {α : Type} (read : Json → Option α) : Option Json → Option (Option α)
  | none => some none
  | some .null => some none
  | some v => (read v).map some

/-- A name out of a fixed list; it may stand alone or as the one member of an object. -/
def name? : Json → Option String
  | .string s => some s
  | .object [(k, .null)] => some k
  | _ => none

end Json

open Json

def Server.ofJson? (v : Json) : Option Server := do
  let [some id, some name] ← v.record? ["id", "name"] | none
  return ⟨← id.integer? int64, ← name.string?⟩

def Score.ofJson? (v : Json) : Option Score := do
  let [some red, some blu] ← v.record? ["red", "blu"] | none
  return ⟨← red.integer? int32, ← blu.integer? int32⟩

def SteamId.ofJson? (v : Json) : Option SteamId :=
  (v.integer? word64).map fun n => ⟨n.toNat.toUInt64⟩

def Team.ofJson? (v : Json) : Option Team := v.name?.bind Team.ofName?

def EventKind.ofJson? (v : Json) : Option EventKind := v.name?.bind EventKind.ofName?

def Net.IpAddress.ofJson? (v : Json) : Option IpAddress :=
  v.string?.bind fun s => IpAddress.ofText? s.toList

def Time.Stamp.ofJson? (v : Json) : Option Stamp := v.string?.bind Stamp.ofText?

def Player.ofJson? (v : Json) : Option Player := do
  let [some id, some name, some team, address] ←
    v.record? ["steam_id", "name", "team", "address"] | none
  return ⟨← SteamId.ofJson? id, ← name.string?, ← Team.ofJson? team,
    ← optional? IpAddress.ofJson? address⟩

/-- An integer beyond 64 bits signed is taken as a double. -/
def Attribute.ofJson? : Json → Option Attribute
  | .integer n => some (if int64.Holds n then .integer n else .real (.ofInt n))
  | .real x => some (.real x)
  | .bool b => some (.bool b)
  | .string s => some (.text s)
  | _ => none

def Attributes.ofJson? (v : Json) : Option Attributes := do
  (← v.members?).foldlM (fun as (k, v) => do return as.insert k (← Attribute.ofJson? v)) .empty

namespace Payload

def tagged? : Json → Option (String × Json)
  | .object ms => do
    let tag ← (member? "type" (.object ms)).bind string?
    return (tag, .object (ms.filter (·.1 ≠ "type")))
  | .array (.string tag :: fields) => some (tag, .array fields)
  | _ => none

def ofJson? (v : Json) : Option Payload := do
  let (tag, v) ← tagged? v
  match tag with
  | "say" =>
    let [some message] ← v.record? ["message"] | none
    return .say (← message.string?)
  | "connected" =>
    let [address] ← v.record? ["address"] | none
    return .connected (← optional? IpAddress.ofJson? address)
  | "kill" =>
    let [some victim, some weapon] ← v.record? ["victim", "weapon"] | none
    return .kill (← Player.ofJson? victim) (← weapon.string?)
  | "damage" =>
    let [victim, some amount, weapon] ← v.record? ["victim", "amount", "weapon"] | none
    return .damage (← optional? Player.ofJson? victim) (← amount.integer? int64)
      (← optional? string? weapon)
  | "heal" =>
    let [target, some amount] ← v.record? ["target", "amount"] | none
    return .heal (← optional? Player.ofJson? target) (← amount.integer? int64)
  | "charge_deployed" =>
    let [medigun] ← v.record? ["medigun"] | none
    return .chargeDeployed (← optional? string? medigun)
  | "medic_death" =>
    let [some medic, some ubercharge] ← v.record? ["medic", "ubercharge"] | none
    return .medicDeath (← Player.ofJson? medic) (← ubercharge.bool?)
  | "round_end" =>
    let [winner, some score] ← v.record? ["winner", "score"] | none
    return .roundEnd (← optional? Team.ofJson? winner) (← Score.ofJson? score)
  | "map_load" =>
    let [some map] ← v.record? ["map"] | none
    return .mapLoad (← map.string?)
  | "game_over" =>
    let [some reason] ← v.record? ["reason"] | none
    return .gameOver (← reason.string?)
  | "none" =>
    let [] ← v.record? [] | none
    return .empty
  | _ => none

end Payload

def Event.ofJson? (v : Json) : Option Event := do
  let [some kind, some origin, actor, some occurredAt, some payload, some attributes] ←
    v.record? ["kind", "origin", "actor", "occurred_at", "payload", "attributes"] | none
  return ⟨← EventKind.ofJson? kind, ← Server.ofJson? origin, ← optional? Player.ofJson? actor,
    ← Stamp.ofJson? occurredAt, ← Payload.ofJson? payload, ← Attributes.ofJson? attributes⟩

def Json.ofOption {α : Type} (write : α → Json) : Option α → Json
  | none => .null
  | some a => write a

def Server.toJson (s : Server) : Json := .object [("id", .integer s.id), ("name", .string s.name)]

def Score.toJson (s : Score) : Json := .object [("red", .integer s.red), ("blu", .integer s.blu)]

def SteamId.toJson (id : SteamId) : Json := .integer id.word.toNat

def Team.toJson (t : Team) : Json := .string t.name

def Net.IpAddress.toJson (a : IpAddress) : Json := .string a.text

def Time.Stamp.toJson (t : Stamp) : Json := .string t.text

def Player.toJson (p : Player) : Json := .object [
  ("steam_id", p.steamId.toJson), ("name", .string p.name), ("team", p.team.toJson),
  ("address", ofOption IpAddress.toJson p.address)]

def Attribute.toJson : Attribute → Json
  | .integer n => .integer n
  | .real x => .real x
  | .bool b => .bool b
  | .text s => .string s

def Attributes.toJson (as : Attributes) : Json :=
  .object (as.entries.map fun (k, v) => (k, v.toJson))

def Payload.toJson : Payload → Json
  | .say message => .object [("type", .string "say"), ("message", .string message)]
  | .connected address =>
    .object [("type", .string "connected"), ("address", ofOption IpAddress.toJson address)]
  | .kill victim weapon =>
    .object [("type", .string "kill"), ("victim", victim.toJson), ("weapon", .string weapon)]
  | .damage victim amount weapon => .object [
      ("type", .string "damage"), ("victim", ofOption Player.toJson victim),
      ("amount", .integer amount), ("weapon", ofOption string weapon)]
  | .heal target amount => .object [
      ("type", .string "heal"), ("target", ofOption Player.toJson target),
      ("amount", .integer amount)]
  | .chargeDeployed medigun =>
    .object [("type", .string "charge_deployed"), ("medigun", ofOption string medigun)]
  | .medicDeath medic ubercharge => .object [
      ("type", .string "medic_death"), ("medic", medic.toJson), ("ubercharge", bool ubercharge)]
  | .roundEnd winner score => .object [
      ("type", .string "round_end"), ("winner", ofOption Team.toJson winner),
      ("score", score.toJson)]
  | .mapLoad map => .object [("type", .string "map_load"), ("map", .string map)]
  | .gameOver reason => .object [("type", .string "game_over"), ("reason", .string reason)]
  | .empty => .object [("type", .string "none")]

def Event.toJson (e : Event) : Json := .object [
  ("kind", .string e.kind.name), ("origin", e.origin.toJson),
  ("actor", ofOption Player.toJson e.actor), ("occurred_at", e.occurredAt.toJson),
  ("payload", e.payload.toJson), ("attributes", e.attributes.toJson)]

end Moderation
