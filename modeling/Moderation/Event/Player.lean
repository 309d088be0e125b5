import Moderation.Net.Address
import Moderation.Number.Range
import Moderation.Table
import Moderation.Text.Affix
import Moderation.Text.Numeral
/-!
Players: their steam ids, in the three forms in which these are written, and their teams.
-/
namespace Moderation
open Number Text

/-- A steam id, a 64-bit word. Zero stands for a player without one. -/
structure SteamId where
  word : UInt64
  deriving DecidableEq

namespace SteamId

def base : Nat := 76561197960265728

def none : SteamId := ⟨0⟩

theorem eq_of_not_lt {a b : SteamId} (h : ¬ a.word.toNat < b.word.toNat)
    (k : ¬ b.word.toNat < a.word.toNat) : a = b := by
  have hword : a.word = b.word := UInt64.toNat_inj.1 (by omega)
  cases a
  cases b
  cases hword
  rfl

instance : Key SteamId where
  before a b := decide (a.word.toNat < b.word.toNat)
  irrefl _ := decide_eq_false (Nat.lt_irrefl _)
  trans _ _ _ h k := decide_eq_true (Nat.lt_trans (of_decide_eq_true h) (of_decide_eq_true k))
  total _ _ h k := eq_of_not_lt (of_decide_eq_false h) (of_decide_eq_false k)

/-- The account number; zero at and below the base. -/
def account (id : SteamId) : Nat := id.word.toNat - base

def Valid (id : SteamId) : Prop := base < id.word.toNat

instance (id : SteamId) : Decidable id.Valid := inferInstanceAs (Decidable (_ < _))

def ofAccount (account : Nat) : Except Overflow SteamId :=
  if base + account < Nat.pow 2 64 then .ok ⟨(base + account).toUInt64⟩ else .error .sum

/-- Reads the account number of a text such as `[U:1:57681080]`. -/
def account? (s : List Char) : Option Nat := do
  let n ← unsigned? (← dropSuffix? [']'] (← dropPrefix? "[U:1:".toList s))
  if 0 < n ∧ n < Nat.pow 2 64 then some n else .none

def ofSteam3? (s : List Char) : Except Overflow (Option SteamId) :=
  match account? s with
  | some n => (ofAccount n).map some
  | .none => .ok .none

def steam3 (id : SteamId) : String := "[U:1:" ++ showNat id.account ++ "]"

/-- The form that gives the last bit of the account number and then the others. -/
def steam2 (id : SteamId) : String :=
  "STEAM_0:" ++ showNat (id.account % 2) ++ ":" ++ showNat (id.account / 2)

def text (id : SteamId) : String := showNat id.word.toNat

end SteamId

inductive Team where
  | red
  | blu
  | spectator
  | unassigned
  deriving DecidableEq

namespace Team

def all : List Team := [red, blu, spectator, unassigned]

def rank : Team → Nat
  | red => 0
  | blu => 1
  | spectator => 2
  | unassigned => 3

instance : Key Team where
  before a b := decide (a.rank < b.rank)
  irrefl a := by simp
  trans a b c := by simp only [decide_eq_true_eq]; omega
  total a b := by cases a <;> cases b <;> decide

/-- Reads the team field of a log line, in any case; an unfamiliar name is no team. -/
def ofField (s : String) : Team :=
  let s := lowerAscii s
  if s = "red" then red
  else if s = "blue" ∨ s = "blu" then blu
  else if s = "spectator" then spectator
  else unassigned

def label : Team → String
  | red => "RED"
  | blu => "BLU"
  | spectator => "SPEC"
  | unassigned => "UNASSIGNED"

def name : Team → String
  | red => "red"
  | blu => "blu"
  | spectator => "spectator"
  | unassigned => "unassigned"

def ofName? (s : String) : Option Team := all.find? (·.name = s)

end Team

structure Player where
  steamId : SteamId
  name : String
  team : Team
  address : Option Net.IpAddress
  deriving DecidableEq

end Moderation
