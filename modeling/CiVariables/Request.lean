import CiVariables.Variable.Basic

/-!
# Requests

What is sent to the service for each operation on a variable. Unset fields are left out of a body,
so that the service applies its defaults or keeps what it has. A filter narrows a request to one
environment scope, and is sent only where a scope is declared.
-/

namespace CiVariables

/-- Narrows a request to the variable of one environment scope. -/
structure ScopeFilter where
  scope : String
  deriving DecidableEq, Inhabited

/-- The body of a create request. -/
structure CreateRequest where
  key : String
  value : Option String := none
  kind : Option VariableKind := none
  isProtected : Option Bool := none
  masked : Option Bool := none
  scope : Option String := none
  raw : Option Bool := none
  deriving DecidableEq, Inhabited

/-- The body of an update request; the key is part of the address, not of the body. -/
structure UpdateRequest where
  value : Option String := none
  kind : Option VariableKind := none
  isProtected : Option Bool := none
  masked : Option Bool := none
  scope : Option String := none
  raw : Option Bool := none
  filter : Option ScopeFilter := none
  deriving DecidableEq, Inhabited

/-- The options of a request that reads a variable. -/
structure GetRequest where
  filter : Option ScopeFilter := none
  deriving DecidableEq, Inhabited

/-- The options of a request that removes a variable. -/
structure RemoveRequest where
  filter : Option ScopeFilter := none
  deriving DecidableEq, Inhabited

open Schema (Checked Source Value Entries)

namespace ScopeFilter

/-- Checks a filter by scope. -/
def check (source : Source) : Value → Checked ScopeFilter :=
  Schema.record source "VariableFilter" fun entries =>
    (Schema.required entries "environment_scope" Schema.text).map ScopeFilter.mk

/-- The filter as query parameters. -/
def toQuery (f : ScopeFilter) : Fields := [("filter[environment_scope]", .str f.scope)]

/-- The filter as a member of a body. -/
def dump (f : ScopeFilter) : Json := .obj [("environment_scope", .str f.scope)]

/-- The query parameters of a request that may be narrowed. -/
def queryOf : Option ScopeFilter → Fields
  | some f => f.toQuery
  | none => []

/-- Only a declared scope is filtered by. -/
def ofParameters (p : Parameters) : Option ScopeFilter := p.scope.map ScopeFilter.mk

end ScopeFilter

/-- A member that may be left out or null. -/
def optionalMember {α : Type} (entries : Entries) (name : String) (check : Value → Checked α) :
    Checked (Option α) :=
  Schema.optional entries name none (Schema.nullable check)

namespace CreateRequest

/-- Checks what is asked to be created; only key and value have to be given. -/
def check (source : Source) : Value → Checked CreateRequest :=
  Schema.record source "CreateVariableOptions" fun entries =>
    (((((((Schema.required entries "key" Schema.text).map CreateRequest.mk).and
      (optionalMember entries "value" Schema.text)).and
      (optionalMember entries "variable_type" VariableKind.check)).and
      (optionalMember entries "protected" Schema.bool)).and
      (optionalMember entries "masked" Schema.bool)).and
      (optionalMember entries "environment_scope" Schema.text)).and
      (optionalMember entries "raw" Schema.bool)

/-- The body of a request to create: everything that is set. -/
def body (r : CreateRequest) : Fields :=
  Fields.dropNull
    [("key", .str r.key),
      ("value", .ofOption .str r.value),
      ("variable_type", .ofOption (.str ·.text) r.kind),
      ("protected", .ofOption .bool r.isProtected),
      ("masked", .ofOption .bool r.masked),
      ("environment_scope", .ofOption .str r.scope),
      ("raw", .ofOption .bool r.raw)]

/-- The request that creates the variable of some parameters. -/
def ofParameters (p : Parameters) : CreateRequest :=
  ⟨p.key, p.value, p.kind, p.isProtected, p.masked, p.scope, p.raw⟩

end CreateRequest

namespace UpdateRequest

/-- Checks what is asked to be changed. -/
def check (source : Source) : Value → Checked UpdateRequest :=
  Schema.record source "UpdateVariableOptions" fun entries =>
    (((((((optionalMember entries "value" Schema.text).map UpdateRequest.mk).and
      (optionalMember entries "variable_type" VariableKind.check)).and
      (optionalMember entries "protected" Schema.bool)).and
      (optionalMember entries "masked" Schema.bool)).and
      (optionalMember entries "environment_scope" Schema.text)).and
      (optionalMember entries "raw" Schema.bool)).and
      (optionalMember entries "filter" (ScopeFilter.check source))

/-- The members of the body that are set, without the filter. -/
def changes (r : UpdateRequest) : Fields :=
  Fields.dropNull
    [("value", .ofOption .str r.value),
      ("variable_type", .ofOption (.str ·.text) r.kind),
      ("protected", .ofOption .bool r.isProtected),
      ("masked", .ofOption .bool r.masked),
      ("environment_scope", .ofOption .str r.scope),
      ("raw", .ofOption .bool r.raw)]

/-- The body of a request to update: the changes, and the filter as an object of its own. -/
def body (r : UpdateRequest) : Fields :=
  r.changes ++
    match r.filter with
    | some f => [("filter", f.dump)]
    | none => []

/-- The request that brings the observed variable to the declared one. -/
def ofParameters (p : Parameters) : UpdateRequest :=
  ⟨p.value, p.kind, p.isProtected, p.masked, p.scope, p.raw, ScopeFilter.ofParameters p⟩

end UpdateRequest

namespace GetRequest

def check (source : Source) : Value → Checked GetRequest :=
  Schema.record source "GetVariableOptions" fun entries =>
    (optionalMember entries "filter" (ScopeFilter.check source)).map GetRequest.mk

/-- The query of a request to read. -/
def query (r : GetRequest) : Fields := ScopeFilter.queryOf r.filter

/-- The options that read the declared variable; none without a scope. -/
def ofParameters (p : Parameters) : Option GetRequest :=
  (ScopeFilter.ofParameters p).map fun f => ⟨some f⟩

end GetRequest

namespace RemoveRequest

def check (source : Source) : Value → Checked RemoveRequest :=
  Schema.record source "RemoveVariableOptions" fun entries =>
    (optionalMember entries "filter" (ScopeFilter.check source)).map RemoveRequest.mk

/-- The query of a request to remove. -/
def query (r : RemoveRequest) : Fields := ScopeFilter.queryOf r.filter

/-- The options that remove the declared variable; none without a scope. -/
def ofParameters (p : Parameters) : Option RemoveRequest :=
  (ScopeFilter.ofParameters p).map fun f => ⟨some f⟩

end RemoveRequest

end CiVariables
