import CiVariables.Config.Secrets
import CiVariables.Config.Unique
import CiVariables.Provider

/-!
# Declaration files

What a declaration file says once it has been checked: how to reach the service, the projects and
the variables. `Config.settle` resolves projects and secrets and looks for declarations that
collide.
-/

namespace CiVariables

open Schema (Checked Source Value Entries)

/-- The content of a declaration file. -/
structure Config where
  settings : Settings
  projects : List Project := []
  declarations : List Declaration := []
  deriving Inhabited

namespace Config

/-- A list; null counts as empty. -/
def listOrNull {α : Type} (source : Source) (check : Value → Checked α) : Value → Checked (List α)
  | .null => .valid []
  | v => Schema.list source check v

/-- Checks the content of a declaration file; null counts as an empty list. -/
def check (source : Source) (env : Environment) : Value → Checked Config :=
  Schema.record source "Config" fun entries =>
    (((Schema.required entries "provider" (Settings.check source env)).map Config.mk).and
      (Schema.optional entries "projects" [] (listOrNull source (Project.check source)))).and
      (Schema.optional entries "variables" [] (listOrNull source (Declaration.check source)))

/-- Checks a mapping as a configuration. Connection settings with the reserved name fail before all
other checks. -/
def read (source : Source) (env : Environment) (data : Value) : Except Failure Config :=
  let settings? : Option Value :=
    match data with
    | .map entries => Schema.Entries.get? entries "provider"
    | _ => none
  match settings?.map (Settings.read source env) with
  | some (.error (.reservedName name)) => .error (.reservedName name)
  | _ =>
    match check source env data with
    | .valid c => .ok c
    | .invalid issues => .error (.schema "Config" issues)

def dump (c : Config) : Json :=
  .obj
    [("provider", c.settings.dump), ("projects", .arr (c.projects.map Project.dump)),
      ("variables", .arr (c.declarations.map Declaration.dump))]

/-- The errors of a file whose projects and secrets have been looked up. Collisions between
variables are looked for only if everything else is in order. -/
def errorsOf (declared : List Declaration) (projects secrets : Resolution) : List String :=
  let errors := duplicateNameErrors declared ++ projects.errors ++ secrets.errors
  if errors.isEmpty then duplicateVariableErrors secrets.declarations else errors

/-- The file with its projects and values looked up, or all errors; and the log lines. -/
def settle (env : Environment) (dotenv : DotenvValues) (c : Config) :
    Except Failure Config × List LogLine :=
  let projects := resolveProjects c.projects c.declarations
  let secrets := resolveSecrets env dotenv projects.declarations
  let errors := errorsOf c.declarations projects secrets
  let log := projects.log ++ secrets.log
  if errors.isEmpty then (.ok { c with declarations := secrets.declarations }, log)
  else (.error (.config (.unresolved errors)), log)

/-- The connection settings among the raw entries. Nothing given counts as no settings. -/
def rawSettings (entries : Entries) : Except Failure Entries :=
  match entries.get? "provider" with
  | none => .ok []
  | some v =>
    if v.isFalsy then .ok []
    else
      match v with
      | .map settings => .ok settings
      | v => .error (.settingsNotMapping v.kindName)

/-- The checked content of raw entries, whose settings are completed from the environment. -/
def ofEntries (env : Environment) (dotenv : DotenvValues) (entries : Entries) :
    Except Failure Config := do
  let raw ← rawSettings entries
  let settings ← Settings.resolve raw env dotenv
  match check .data env (.map (entries.set "provider" (.map settings))) with
  | .valid c => .ok c
  | .invalid issues => .error (.config (.schema issues))

/-- The settled content of raw entries, and the log lines. -/
def load (env : Environment) (dotenv : DotenvValues) (entries : Entries) :
    Except Failure Config × List LogLine :=
  match ofEntries env dotenv entries with
  | .error failure => (.error failure, [])
  | .ok c => c.settle env dotenv

/-- How to reach the service, if the file and the environment say so. An empty host or token is a
missing one. -/
def provider (c : Config) : Except Failure Provider :=
  match c.settings.host.filter (· != ""), c.settings.token.filter (· != "") with
  | none, _ => .error (.config .missingHost)
  | some _, none => .error (.config .missingToken)
  | some host, some token => .ok ⟨some host, some token, c.settings.verifySsl, false⟩

end Config

end CiVariables
