import CiVariables.Variable.Basic

/-!
# Marked fields

A record is a list of named fields whose values may be texts, pointers, lists or records again. A
field can carry markers: that it refers to resources of a type, or how it takes part in a
comparison. `Record.references` collects the names that marked fields refer to, a record's own
before those of the records inside it; the first marker of a sort counts.
-/

namespace CiVariables

/-- What a marker says of a field. -/
inductive Marker where
  /-- The field names resources, of one type if it is given. -/
  | refersTo (type : Option String)
  /-- How the field is compared. -/
  | compared (strategy : String)
  deriving DecidableEq, Inhabited

/-- The value of a field. -/
inductive Attribute where
  /-- Null, a boolean, a number, a text or an object. -/
  | plain (j : Json)
  | kind (k : VariableKind)
  | reference (r : Reference)
  | selector (s : Selector)
  | secret (s : SecretSource)
  | list (items : List Attribute)
  | record (fields : List (String × List Marker × Attribute))
  deriving Inhabited

/-- Named fields with their markers and values. -/
abbrev Record := List (String × List Marker × Attribute)

/-- A name found in a field, with the type of the resource that it names. -/
structure ResourceName where
  name : String
  type : Option String
  deriving DecidableEq, Inhabited

namespace Marker

/-- The type in the first marker that refers to resources. -/
def target? : List Marker → Option (Option String)
  | [] => none
  | refersTo type :: _ => some type
  | _ :: rest => target? rest

/-- The first comparison strategy. -/
def strategy? : List Marker → Option String
  | [] => none
  | compared strategy :: _ => some strategy
  | _ :: rest => strategy? rest

end Marker

namespace Attribute

/-- The text of a value that is one. -/
def text? : Attribute → Option String
  | plain (.str s) => some s
  | kind k => some k.text
  | _ => none

/-- The text in a record's field called `name`. -/
def nameField? (fields : Record) : Option String :=
  match fields.lookup "name" with
  | some (_, value) => value.text?
  | none => none

mutual

/-- The names that a value holds: a text, the name of a named value, or those of a list. -/
def names : Attribute → List String
  | plain (.str s) => [s]
  | kind k => [k.text]
  | reference r => [r.name]
  | list items => namesOfItems items
  | record fields =>
    match nameField? fields with
    | some name => [name]
    | none => []
  | _ => []

def namesOfItems : List Attribute → List String
  | [] => []
  | a :: rest => names a ++ namesOfItems rest

end

/-- The value points at something that is resolved before a variable is sent. -/
def isPointer : Attribute → Bool
  | reference _ | selector _ | secret _ => true
  | _ => false

/-- The value never takes part in a comparison: a pointer, or a list of nothing but pointers. -/
def isIgnored : Attribute → Bool
  | list items => !items.isEmpty && items.all isPointer
  | a => a.isPointer

/-- Null, false, zero, an empty text, list or object. A fractional zero is not empty. -/
def isEmpty : Attribute → Bool
  | plain .null => true
  | plain (.bool b) => !b
  | plain (.int n) => n == 0
  | plain (.str s) => s == ""
  | plain (.arr items) => items.isEmpty
  | plain (.obj fields) => fields.isEmpty
  | list items => items.isEmpty
  | _ => false

/-- The value as it is shown in a difference, for values that have a plain form. -/
def plain? : Attribute → Option Json
  | plain (.arr _) => none
  | plain (.obj _) => none
  | plain j => some j
  | kind k => some (.str k.text)
  | _ => none

end Attribute

namespace Record

/-- The references in the fields of a record itself. -/
def ownReferences : Record → List ResourceName
  | [] => []
  | (_, markers, value) :: rest =>
    (match Marker.target? markers with
      | some type => value.names.map fun name => ⟨name, type⟩
      | none => []) ++ ownReferences rest

mutual

/-- The names that a value's records refer to; records inside lists are not looked at. -/
def referencesIn : Attribute → List ResourceName
  | .record fields => ownReferences fields ++ nestedReferences fields
  | _ => []

/-- The references deeper inside the fields of a record. -/
def nestedReferences : List (String × List Marker × Attribute) → List ResourceName
  | [] => []
  | (_, _, value) :: rest => referencesIn value ++ nestedReferences rest

end

/-- All references of a record: those of its own fields first, then those deeper inside. -/
def references (fields : Record) : List ResourceName :=
  ownReferences fields ++ nestedReferences fields

/-- The strategies by which the fields of a record are compared. -/
def strategies (fields : Record) : List (String × String) :=
  fields.filterMap fun (name, markers, _) =>
    (Marker.strategy? markers).map fun strategy => (name, strategy)

/-- The fields that are never compared. -/
def ignoredFields (fields : Record) : List String :=
  (strategies fields).filterMap fun (name, strategy) =>
    if strategy = "ignore" then some name else none

end Record

/-- A value or null. -/
def Attribute.ofOption {α : Type} (f : α → Attribute) : Option α → Attribute
  | none => .plain .null
  | some a => f a

/-- The fields of parameters. The project number is never compared, and the project reference
names a project. -/
def Parameters.record (p : Parameters) : Record :=
  [("key", [], .plain (.str p.key)),
    ("value", [], .ofOption (.plain <| .str ·) p.value),
    ("value_secret_ref", [], .ofOption .secret p.secret),
    ("variable_type", [], .ofOption .kind p.kind),
    ("protected", [], .ofOption (.plain <| .bool ·) p.isProtected),
    ("masked", [], .ofOption (.plain <| .bool ·) p.masked),
    ("environment_scope", [], .ofOption (.plain <| .str ·) p.scope),
    ("raw", [], .ofOption (.plain <| .bool ·) p.raw),
    ("project_id", [.compared "ignore"], .ofOption (.plain <| .int ·) p.projectId),
    ("project_id_ref", [.refersTo (some projectType)], .ofOption .reference p.reference),
    ("project_id_selector", [], .ofOption .selector p.selector)]

/-- The fields of a declaration with their markers. -/
def Declaration.record (d : Declaration) : Record :=
  [("name", [], .plain (.str d.name)),
    ("description", [], .plain (.str d.description)),
    ("for_provider", [], .record d.parameters.record)]

/-- The names that the fields of a declaration refer to. -/
def Declaration.references (d : Declaration) : List ResourceName := d.record.references

end CiVariables
