import CiVariables.Config.Basic
import CiVariables.Applying
import CiVariables.Dotenv
import CiVariables.Files
import CiVariables.Yaml.Document

/-!
# Loading a declaration file

The file is YAML; a file `.env` beside it adds variables to the environment.
-/

namespace CiVariables.Config

open CiVariables

/-- The raw content of a declaration file. A file that is missing and one that is no YAML fail
alike, and so does one whose content is no mapping. -/
def readEntries (files : Files) (path : String) : Except Failure Schema.Entries :=
  let name := Path.normalize path
  match (files.get? path).bind Yaml.read? with
  | none => .error (.config (.unreadable name))
  | some (.map entries) => .ok entries
  | some _ => .error (.config (.notMapping name))

/-- The variables of the file `.env` in the directory of a declaration file. -/
def readDotenv (s : Surroundings) (path : String) :
    Except Failure (DotenvValues × List LogLine) :=
  match s.files.get? (Path.inside (Path.parent path) ".env") with
  | some bytes => Dotenv.read s.env bytes
  | none => .ok ([], [])

/-- The log line of an accepted file. -/
def loadedLog (path : String) (c : Config) : LogLine :=
  ⟨.info, .loader,
    "Loaded config from " ++ Path.normalize path ++ " (" ++ toString c.declarations.length ++
      " variables)"⟩

/-- The settled content of a declaration file, and the log lines. -/
def loadFile (s : Surroundings) (path : String) : Except Failure Config × List LogLine :=
  match readEntries s.files path with
  | .error failure => (.error failure, [])
  | .ok entries =>
    match readDotenv s path with
    | .error failure => (.error failure, [])
    | .ok (dotenv, warnings) =>
      match load s.env dotenv entries with
      | (.error failure, log) => (.error failure, warnings ++ log)
      | (.ok c, log) => (.ok c, warnings ++ log ++ [loadedLog path c])

/-- Runs engine work with a provider that has not connected yet. -/
def engineWork {α : Type} (c : Config) (work : Provider → Work α) : Work α := do
  match c.provider with
  | .error failure => throw failure
  | .ok p =>
    modify fun s => { s with isConnected := false }
    work p

/-- Compares the declarations with the service. -/
def plan (c : Config) (now : Timestamp) (destroy : Bool) : Work Plan :=
  c.engineWork fun p => Planning.plan p now destroy c.declarations

/-- Applies a plan, noting progress if somebody follows it. -/
def apply (c : Config) (follower : Option Applying.Follower) (plan : Plan) : Work (List Change) :=
  c.engineWork fun p => Applying.apply p follower plan

end CiVariables.Config
