import Moderation.Settings.Basic
import Moderation.Settings.EnvFile
/-!
The start of the program: it reads its settings from variables and from a file of variables, and
then needs its database.
-/
namespace Moderation.Settings
open Text

inductive StartFailure where
  | settings (cause : Error)
  | database
  deriving DecidableEq

def StartFailure.message : StartFailure → String
  | .settings cause => cause.message
  | .database => "Failed to create database pool"

def StartFailure.report (f : StartFailure) : String := "Error: " ++ f.message

/-- The variables of the environment and, where they say nothing, those of a file. -/
def merged (environment : Variables) (file : Option String) : Variables :=
  match file with
  | some text => EnvFile.extend environment text
  | none => environment

/-- Starts the program where no database can be reached. -/
def start (environment : Variables) (file : Option String) : StartFailure :=
  match ofVariables (merged environment file) with
  | .error e => .settings e
  | .ok _ => .database

end Moderation.Settings
