import CiVariables.Variable.Basic

/-!
# Declarations that collide

No two declarations may have one name, and no two may be about one variable of the service, which
is known by its project, key and environment scope. Each later one is reported with the first that
it collides with.
-/

namespace CiVariables

namespace Unique

variable {α β : Type} [BEq α]

/-- Reports every item whose key an earlier item has, together with the first such item. -/
def duplicates (key : β → α) : List (α × β) → List β → List (β × β)
  | _, [] => []
  | owners, b :: rest =>
    match owners.lookup (key b) with
    | some owner => (owner, b) :: duplicates key owners rest
    | none => duplicates key (owners ++ [(key b, b)]) rest

end Unique

/-- The environment scope that a declaration is about; unset or empty is for all environments. -/
def Parameters.effectiveScope (p : Parameters) : String :=
  match p.scope with
  | some s => if s = "" then "*" else s
  | none => "*"

/-- What the service knows a variable by. -/
structure Identity where
  project : Option Int
  key : String
  scope : String
  deriving DecidableEq, Inhabited

/-- What makes two declarations the same variable: project, key and scope. -/
def Declaration.identity (d : Declaration) : Identity :=
  ⟨d.parameters.projectId, d.parameters.key, d.parameters.effectiveScope⟩

/-- The errors for names that an earlier declaration has too. -/
def duplicateNameErrors (ds : List Declaration) : List String :=
  (Unique.duplicates (fun (d, _) => d.name) [] ds.zipIdx).map
    fun ((_, i), (d, j)) =>
      "Duplicate variable name '" ++ d.name ++ "' (entries " ++ toString i ++ " and " ++
        toString j ++ ")"

def projectText : Option Int → String
  | some id => toString id
  | none => "None"

/-- The errors about variables that are declared more than once, under different names. -/
def duplicateVariableErrors (ds : List Declaration) : List String :=
  ((Unique.duplicates Declaration.identity [] ds).filter
      fun (owner, d) => owner.address != d.address).map
    fun (owner, d) =>
      "Duplicate variable '" ++ d.parameters.key ++ "' (scope '" ++
        d.parameters.effectiveScope ++ "') in project " ++
        projectText d.parameters.projectId ++ ": found in both " ++ owner.address ++ " and " ++
        d.address

end CiVariables
