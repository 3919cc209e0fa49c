import CiVariables.Request

/-!
# The variable store of the service

The service keeps its variables as an ordered list of entries, each with its project, key and
environment scope. An operation addresses the first entry of a project and key, of one scope if the
request asks for one: reading and removing ask in the query parameters, updating asks inside the
body. Creating refuses a project, key and scope that are taken.
-/

namespace CiVariables

/-- A project is addressed by its number or by its path. -/
inductive ProjectId where
  | number (n : Int)
  | path (s : String)
  deriving DecidableEq, Inhabited

def ProjectId.toJson : ProjectId → Json
  | number n => .int n
  | path s => .str s

/-- A stored variable: all its attributes and the project that it belongs to. -/
abbrev Entry := Fields

namespace Entry

/-- The project that an entry is in, as it is stored. -/
def project (e : Entry) : Json := (e.get? "project").getD .null

def key (e : Entry) : Json := (e.get? "key").getD .null

/-- The environment scope; an entry without one is for all environments. -/
def scope (e : Entry) : Json := (e.get? "environment_scope").getD (.str "*")

/-- The attributes of an entry, which is all but its project. -/
def attributes (e : Entry) : Fields := e.erase "project"

/-- The entry is in a project. Projects are compared as data, so a number may be stored in any form.
-/
def inProject (project : ProjectId) (e : Entry) : Bool := e.project.sameValue project.toJson

/-- The entry is of a project and key, and of a scope if one is given. -/
def isAddressed (project : ProjectId) (key : String) (scope : Option String) (e : Entry) : Bool :=
  e.inProject project && e.key.sameValue (.str key) &&
    match scope with
    | none => true
    | some s => e.scope.sameValue (.str s)

/-- What the service stores for attributes that a request to create leaves out. -/
def defaults : Fields :=
  [("value", .str ""), ("variable_type", .str "env_var"), ("protected", .bool false),
    ("masked", .bool false), ("raw", .bool false), ("environment_scope", .str "*")]

/-- The entry that a request to create makes. -/
def created (project : ProjectId) (body : Fields) : Entry :=
  Fields.update (("project", project.toJson) :: defaults) body

/-- Two entries have the same project, key and scope. -/
def sameIdentity (a b : Entry) : Bool :=
  a.project.sameValue b.project && a.key.sameValue b.key && a.scope.sameValue b.scope

end Entry

/-- The entries of the service, in order. -/
abbrev Store := List Entry

namespace Store

/-- The first entry of a project and key, of a scope if one is given. -/
def find? (store : Store) (project : ProjectId) (key : String) (scope : Option String) :
    Option Entry :=
  List.find? (Entry.isAddressed project key scope) store

/-- Changes the first entry that satisfies a test. -/
def updateFirst (test : Entry → Bool) (change : Entry → Entry) : Store → Store
  | [] => []
  | e :: rest => if test e then change e :: rest else e :: updateFirst test change rest

/-- The entries of a project in their order. -/
def ofProject (store : Store) (project : ProjectId) : List Entry :=
  store.filter (Entry.inProject project)

/-- Adds an entry at the end unless its identity is taken. -/
def create? (store : Store) (project : ProjectId) (body : Fields) : Option (Entry × Store) :=
  let entry := Entry.created project body
  if store.any (Entry.sameIdentity entry) then none else some (entry, store ++ [entry])

/-- The scope that the query parameters of a request ask for. -/
def scopeOfQuery (query : Fields) : Option String :=
  (query.get? "filter[environment_scope]").bind Json.str?

/-- The scope that the body of a request asks for, nested in its filter. -/
def scopeOfBody (body : Fields) : Option String :=
  (body.get? "filter").bind fun filter => (filter.member "environment_scope").str?

/-- The entry that is read. -/
def fetch? (store : Store) (project : ProjectId) (key : String) (query : Fields) : Option Entry :=
  store.find? project key (scopeOfQuery query)

/-- Overwrites the addressed entry in its place with all of a body but its filter. -/
def update? (store : Store) (project : ProjectId) (key : String) (body : Fields) :
    Option (Entry × Store) :=
  let scope := scopeOfBody body
  let changes := body.erase "filter"
  match store.find? project key scope with
  | none => none
  | some e =>
    some (e.update changes,
      store.updateFirst (Entry.isAddressed project key scope) (·.update changes))

/-- Removes the addressed entry. -/
def delete? (store : Store) (project : ProjectId) (key : String) (query : Fields) : Option Store :=
  let scope := scopeOfQuery query
  match store.find? project key scope with
  | none => none
  | some _ => some (store.eraseP (Entry.isAddressed project key scope))

end Store

end CiVariables
