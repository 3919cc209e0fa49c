import CiVariables.Schema.Check

/-!
# CI/CD variables

`Parameters` is what a declaration says about a variable; a field left unset is not managed.
`Declaration` adds a name under which the variable is planned. `Observed` is a variable as the
service returns it, every field filled. Each type has a `check` that reads it from loose data and a
`dump` that writes every field as JSON.
-/

namespace CiVariables

open Schema (Checked Source Value Entries Step)

/-- What a variable's value is used as. -/
inductive VariableKind where
  | envVar
  | file
  deriving DecidableEq, Inhabited, Repr

namespace VariableKind

def text : VariableKind → String
  | envVar => "env_var"
  | file => "file"

def ofText? (s : String) : Option VariableKind :=
  if s = "env_var" then some envVar
  else if s = "file" then some file
  else none

def check : Value → Checked VariableKind := Schema.oneOf "'env_var' or 'file'" ofText?

end VariableKind

def projectType : String := "gitlab_project"

def variableType : String := "gitlab_project_variable"

/-- Points at a declared project by name. -/
structure Reference where
  name : String
  deriving DecidableEq, Inhabited

/-- Takes a value from an environment variable. -/
structure SecretSource where
  env : String
  deriving DecidableEq, Inhabited

/-- Points at a declared project by its labels. -/
structure Selector where
  labels : List (String × String)
  deriving DecidableEq, Inhabited

/-- The desired state of a variable. -/
structure Parameters where
  key : String
  value : Option String := none
  secret : Option SecretSource := none
  kind : Option VariableKind := none
  isProtected : Option Bool := none
  masked : Option Bool := none
  scope : Option String := none
  raw : Option Bool := none
  projectId : Option Int := none
  reference : Option Reference := none
  selector : Option Selector := none
  deriving DecidableEq, Inhabited

/-- A variable as the service returns it. -/
structure Observed where
  key : String
  value : String := ""
  kind : VariableKind := .envVar
  isProtected : Bool := false
  masked : Bool := false
  scope : String := "*"
  raw : Bool := false
  deriving DecidableEq, Inhabited

/-- A named variable of a declaration file. -/
structure Declaration where
  name : String
  description : String := ""
  parameters : Parameters
  deriving DecidableEq, Inhabited

/-- The address of a declaration, by which plans name it. -/
def Declaration.address (d : Declaration) : String := variableType ++ "." ++ d.name

namespace Reference

/-- Checks a reference by name. -/
def check (source : Source) : Value → Checked Reference :=
  Schema.record source "Reference" fun entries =>
    Schema.closed ["name"] entries
      ((Schema.required entries "name" Schema.nonemptyText).map Reference.mk)

def dump (r : Reference) : Json := .obj [("name", .str r.name)]

end Reference

namespace SecretSource

/-- Checks where a value comes from. -/
def check (source : Source) : Value → Checked SecretSource :=
  Schema.record source "SecretRef" fun entries =>
    Schema.closed ["env"] entries
      ((Schema.required entries "env" Schema.nonemptyText).map SecretSource.mk)

def dump (s : SecretSource) : Json := .obj [("env", .str s.env)]

end SecretSource

/-- Labels as an object, whose names have to be whole texts. Of names that become one text the last
counts. -/
def dumpLabels (labels : List (String × String)) : Json :=
  .obj (Fields.dedup (labels.map fun (k, v) => (CiVariables.Text.replaceHalves k, .str v)))

namespace Selector

/-- Checks a selection by labels. -/
def check (source : Source) : Value → Checked Selector :=
  Schema.record source "Selector" fun entries =>
    Schema.closed ["match_labels"] entries
      ((Schema.optional entries "match_labels" [] (Schema.dict source Schema.text)).map
        Selector.mk)

def dump (s : Selector) : Json := .obj [("match_labels", dumpLabels s.labels)]

end Selector

namespace Parameters

/-- The members that a declaration may have. -/
def memberNames : List String :=
  ["key", "value", "value_secret_ref", "variable_type", "protected", "masked",
    "environment_scope", "raw", "project_id", "project_id_ref", "project_id_selector"]

/-- The members of parameters, each read on its own. -/
def checkMembers (source : Source) (entries : Entries) : Checked Parameters :=
  let may {α : Type} (name : String) (check : Value → Checked α) : Checked (Option α) :=
    Schema.optional entries name none (Schema.nullable check)
  (((((((((((Schema.required entries "key" Schema.nonemptyText).map Parameters.mk).and
    (may "value" Schema.text)).and
    (may "value_secret_ref" (SecretSource.check source))).and
    (may "variable_type" VariableKind.check)).and
    (may "protected" Schema.bool)).and
    (may "masked" Schema.bool)).and
    (may "environment_scope" Schema.text)).and
    (may "raw" Schema.bool)).and
    (may "project_id" Schema.int)).and
    (may "project_id_ref" (Reference.check source))).and
    (may "project_id_selector" (Selector.check source))

/-- Checks the parameters of a declared variable. -/
def check (source : Source) : Value → Checked Parameters :=
  Schema.record source "VariableParameters" fun entries =>
    Schema.closed memberNames entries (checkMembers source entries)

/-- Every field as a JSON member, null where unset. -/
def dumpFields (p : Parameters) : Fields :=
  [("key", .str p.key),
    ("value", .ofOption .str p.value),
    ("value_secret_ref", .ofOption SecretSource.dump p.secret),
    ("variable_type", .ofOption (.str ·.text) p.kind),
    ("protected", .ofOption .bool p.isProtected),
    ("masked", .ofOption .bool p.masked),
    ("environment_scope", .ofOption .str p.scope),
    ("raw", .ofOption .bool p.raw),
    ("project_id", .ofOption .int p.projectId),
    ("project_id_ref", .ofOption Reference.dump p.reference),
    ("project_id_selector", .ofOption Selector.dump p.selector)]

def dump (p : Parameters) : Json := .obj p.dumpFields

end Parameters

namespace Observed

/-- A text; null, as hidden variables have, is read as empty. -/
def checkValue : Value → Checked String
  | .null => .valid ""
  | v => Schema.text v

/-- Checks the answer of the service. Members that are not known are left out. -/
def check (source : Source) : Value → Checked Observed :=
  Schema.record source "RemoteVariable" fun entries =>
    (((((((Schema.required entries "key" Schema.text).map Observed.mk).and
      (Schema.optional entries "value" "" checkValue)).and
      (Schema.optional entries "variable_type" .envVar VariableKind.check)).and
      (Schema.optional entries "protected" false Schema.bool)).and
      (Schema.optional entries "masked" false Schema.bool)).and
      (Schema.optional entries "environment_scope" "*" Schema.text)).and
      (Schema.optional entries "raw" false Schema.bool)

def dumpFields (o : Observed) : Fields :=
  [("key", .str o.key),
    ("value", .str o.value),
    ("variable_type", .str o.kind.text),
    ("protected", .bool o.isProtected),
    ("masked", .bool o.masked),
    ("environment_scope", .str o.scope),
    ("raw", .bool o.raw)]

def dump (o : Observed) : Json := .obj o.dumpFields

end Observed

namespace Declaration

/-- Checks a declaration. Its address follows from its name, so it may not be given. -/
def check (source : Source) : Value → Checked Declaration :=
  Schema.record source "VariableResource" fun entries =>
    Schema.closed ["name", "description", "for_provider"] entries
      ((((Schema.required entries "name" Schema.identifier).map Declaration.mk).and
        (Schema.optional entries "description" "" Schema.text)).and
        (Schema.required entries "for_provider" (Parameters.check source)))

/-- Every field but the address, which follows from the name. -/
def dumpFields (d : Declaration) : Fields :=
  [("name", .str d.name), ("description", .str d.description),
    ("for_provider", d.parameters.dump)]

def dump (d : Declaration) : Json := .obj (d.dumpFields ++ [("address", .str d.address)])

end Declaration

end CiVariables
