import CiVariables.Config.Settings
import CiVariables.Remote.Session

/-!
# Log lines on the screen

Log lines are written only if the user asks for them: by an environment variable that names a level,
or else by how often `-v` is given. The reader of `.env` files is only heard from warnings up. Until
somebody asks, warnings are written bare.
-/

namespace CiVariables.Cli

/-- Which log lines are written, and how. -/
inductive Logging where
  /-- Warnings alone, without a heading. -/
  | bare
  /-- Lines from a rank up, with their level and source. -/
  | leveled (rank : Nat)
  deriving DecidableEq, Inhabited

namespace Logging

def variableName : String := "GITLAB_PROVISIONER_LOG"

/-- The rank of a named level. A level that is not set is that of everything else. -/
def rankOfName? (name : String) : Option Nat :=
  [("CRITICAL", LogLevel.critical), ("FATAL", .critical), ("ERROR", .error), ("WARN", .warning),
    ("WARNING", .warning), ("INFO", .info), ("DEBUG", .debug), ("NOTSET", .warning)].lookup
    (CiVariables.Text.upper name) |>.map LogLevel.rank

/-- What is said about a level that does not exist. -/
def unknownLevel (name : String) : String :=
  "WARNING: ignoring unknown " ++ variableName ++ " level " ++ CiVariables.Text.quoted name ++
    ", using INFO"

/-- The way of logging that the environment and the number of `-v` ask for, and what is said about
an unknown level. -/
def choose (env : Environment) (verbosity : Nat) : Logging × Option String :=
  match (env.lookup variableName).filter (· != "") with
  | some name =>
    match rankOfName? name with
    | some rank => (leveled rank, none)
    | none => (leveled LogLevel.info.rank, some (unknownLevel name))
  | none =>
    match verbosity with
    | 0 => (bare, none)
    | 1 => (leveled LogLevel.info.rank, none)
    | _ => (leveled LogLevel.debug.rank, none)

/-- The rank from which lines of a source are shown. What is wrong with a `.env` file is shown
whatever the level is. -/
def rankFor (rank : Nat) : LogSource → Nat
  | .dotenv => LogLevel.warning.rank
  | _ => rank

/-- The text of a log line, if it is written. -/
def text? (logging : Logging) (line : LogLine) : Option String :=
  match logging with
  | bare => if LogLevel.warning.rank ≤ line.level.rank then some line.text else none
  | leveled rank =>
    if rankFor rank line.source ≤ line.level.rank then
      some (line.level.text ++ " " ++ line.source.text ++ ": " ++ line.text)
    else none

end Logging

end CiVariables.Cli
