import CiVariables.Failure

/-!
# Connection settings

Where the service is and how to log in. A setting comes from the declaration file, else from the
process environment, else from the `.env` file, in this order; what is still missing is looked up
in the environment once more, in any letter case, before the default is taken.
-/

namespace CiVariables

open Schema (Checked Source Value Entries)

/-- The variables of the process environment. -/
abbrev Environment := List (String × String)

/-- The variables of a `.env` file; one that is only named has no value. -/
abbrev DotenvValues := List (String × Option String)

/-- The value of a `.env` variable, if it has one. -/
def DotenvValues.get? (values : DotenvValues) (name : String) : Option String :=
  (values.lookup name).join

/-- Where the service is and how to log in. -/
structure Settings where
  host : Option String := none
  token : Option String := none
  verifySsl : Bool := true
  deriving DecidableEq, Inhabited

namespace Settings

/-- The settings that there are. -/
def names : List String := ["host", "token", "verify_ssl"]

/-- How settings are looked up. -/
structure Lookup where
  /-- What the names of environment variables start with. -/
  start : String := "GITLAB_"
  /-- Letters have to be of the right case. -/
  isExact : Bool := false
  /-- Empty environment variables do not count. -/
  skipsEmpty : Bool := false
  /-- The text of an environment variable that stands for null. -/
  nullText : Option String := none
  deriving DecidableEq, Inhabited

namespace Lookup

/-- The names under which the way of looking up can be given among the settings. The ones that do
not change anything here are accepted too. -/
def names : List String :=
  ["_case_sensitive", "_nested_model_default_partial_update", "_env_prefix", "_env_prefix_target",
    "_env_file", "_env_file_encoding", "_env_ignore_empty", "_env_nested_delimiter",
    "_env_nested_max_split", "_env_parse_none_str", "_env_parse_enums", "_cli_prog_name",
    "_cli_parse_args", "_cli_settings_source", "_cli_parse_none_str", "_cli_hide_none_type",
    "_cli_avoid_json", "_cli_enforce_required", "_cli_use_class_docs_for_groups",
    "_cli_exit_on_error", "_cli_prefix", "_cli_flag_prefix_char", "_cli_implicit_flags",
    "_cli_ignore_unknown_args", "_cli_kebab_case", "_cli_shortcuts", "_secrets_dir",
    "_build_sources"]

/-- The text of an entry, if it has one. -/
def text? (entries : Entries) (name : String) : Option String :=
  match entries.get? name with
  | some (.text s) => some s
  | _ => none

/-- An entry that counts as given. -/
def flag (entries : Entries) (name : String) : Bool :=
  match entries.get? name with
  | some v => !v.isFalsy
  | none => false

/-- The way of looking up that is given among settings. -/
def ofEntries (entries : Entries) : Lookup where
  start := (text? entries "_env_prefix").getD "GITLAB_"
  isExact := flag entries "_case_sensitive"
  skipsEmpty := flag entries "_env_ignore_empty"
  nullText := text? entries "_env_parse_none_str"

/-- Two names are one. -/
def sameName (l : Lookup) (a b : String) : Bool :=
  if l.isExact then a == b else CiVariables.Text.lower a == CiVariables.Text.lower b

/-- The value of a setting from the environment; the last variable of its name counts. -/
def environmentValue? (l : Lookup) (env : Environment) (name : String) : Option Value :=
  let counting := env.filter fun (_, v) => !(l.skipsEmpty && v == "")
  (counting.reverse.find? fun (k, _) => l.sameName k (l.start ++ name)).map fun (_, v) =>
    if some v == l.nullText then .null else .text v

/-- The setting that a key names under this way of looking up. -/
def settingOf? (l : Lookup) : Schema.Key → Option String
  | .text s => Settings.names.find? (l.sameName s)
  | _ => none

/-- The entries that are settings, under their own names and each once: the first one counts. Then
the entries that are neither settings nor ask for a way of looking up. -/
def normalize (l : Lookup) (entries : Entries) : Entries :=
  let given (name : String) : Entries :=
    ((entries.find? fun (k, _) => l.settingOf? k == some name).map fun (_, v) =>
      (Schema.Key.text name, v)).toList
  let isOther : Schema.Key × Value → Bool
    | (.text s, _) => !names.contains s && (l.settingOf? (.text s)).isNone
    | _ => true
  Settings.names.flatMap given ++ entries.filter isOther

end Lookup

/-- A setting that is given, else looked up, else the default. -/
def setting {α : Type} (l : Lookup) (env : Environment) (entries : Entries) (name : String)
    (fallback : α) (check : Value → Checked α) : Checked α :=
  match (entries.get? name).or (l.environmentValue? env name) with
  | some v => (check v).under (.name name)
  | none => .valid fallback

/-- Checks connection settings. What is not given is looked up in the environment. -/
def check (source : Source) (env : Environment) : Value → Checked Settings :=
  Schema.record source "ProviderConfig" fun given =>
    let l := Lookup.ofEntries given
    let entries := l.normalize given
    Schema.closed names entries
      ((((setting l env entries "host" none (Schema.nullable Schema.text)).map Settings.mk).and
        (setting l env entries "token" none (Schema.nullable Schema.text))).and
        (setting l env entries "verify_ssl" true Schema.bool))

/-- The name that no entry may have, since it stands for the settings themselves. -/
def reservedName : String := "__pydantic_self__"

/-- Checks connection settings on their own, where the reserved name fails first. -/
def read (source : Source) (env : Environment) (data : Value) : Except Failure Settings :=
  match data with
  | .map entries =>
    if (Schema.Entries.get? entries reservedName).isSome then .error (.reservedName reservedName)
    else ofChecked (check source env data)
  | data => ofChecked (check source env data)
where
  ofChecked : Checked Settings → Except Failure Settings
    | .valid s => .ok s
    | .invalid issues => .error (.schema "ProviderConfig" issues)

def dump (s : Settings) : Json :=
  .obj
    [("host", .ofOption .str s.host), ("token", .ofOption .str s.token),
      ("verify_ssl", .bool s.verifySsl)]

def boolOfWord? (word : String) : Option Bool :=
  if ["yes", "y", "true", "on"].contains word then some true
  else if ["no", "n", "false", "off"].contains word then some false
  else none

/-- A boolean written as text, in either letter case. Anything else is left to later checks. -/
def readBoolean (name : String) : Value → Except Failure Value
  | .text s =>
    match boolOfWord? (CiVariables.Text.lower s) with
    | some b => .ok (.bool b)
    | none => .error (.config (.invalidBoolean name s))
  | v => .ok v

/-- The value of a setting from the first source that has one. -/
def firstSet? (raw : Entries) (env : Environment) (dotenv : DotenvValues) (field name : String) :
    Option Value :=
  match raw.get? field with
  | some v =>
    match v with
    | .null => ((env.lookup name).or (dotenv.get? name)).map Value.text
    | v => some v
  | none => ((env.lookup name).or (dotenv.get? name)).map Value.text

/-- The settings that the sources give, in order; text for a boolean has to be a boolean word. -/
def resolve (raw : Entries) (env : Environment) (dotenv : DotenvValues) :
    Except Failure Entries := do
  let entry (field name : String) : Entries :=
    match firstSet? raw env dotenv field name with
    | some v => [(.text field, v)]
    | none => []
  let verify ←
    match firstSet? raw env dotenv "verify_ssl" "GITLAB_VERIFY_SSL" with
    | some v => (readBoolean "GITLAB_VERIFY_SSL" v).map fun v => [(.text "verify_ssl", v)]
    | none => .ok []
  .ok (entry "host" "GITLAB_HOST" ++ entry "token" "GITLAB_TOKEN" ++ verify)

end Settings

end CiVariables
