import CiVariables.Proofs.Entry

/-!
# How a request asks for a scope

Reading and removing ask for a scope in a query parameter, an update asks for it nested inside its
body, and none of them asks where no scope is set. The service reads from what was sent the scope
that the request names (`Store.scopeOfQuery_scopeQuery`, `Store.scopeOfBody_body`), and what it
writes over an entry is the body without the filter (`UpdateRequest.erase_filter_body`).
-/

namespace CiVariables

/-- The query parameters that ask for a scope. -/
def scopeQuery : Option String → Fields
  | none => []
  | some scope => [("filter[environment_scope]", .str scope)]

/-- The members of a body that ask for a scope. -/
def scopeMembers : Option String → Fields
  | none => []
  | some scope => [("filter", .obj [("environment_scope", .str scope)])]

/-- The scope that a request is narrowed to. -/
def ScopeFilter.scopeOf (filter : Option ScopeFilter) : Option String :=
  filter.map ScopeFilter.scope

/-! ## Query parameters -/

/-- The query of a filter names its scope, and nothing else. -/
theorem ScopeFilter.queryOf_eq (filter : Option ScopeFilter) :
    queryOf filter = scopeQuery (scopeOf filter) := by
  cases filter <;> rfl

theorem GetRequest.query_eq (request : Option GetRequest) : (request.map query).getD [] =
    scopeQuery (ScopeFilter.scopeOf (request.bind GetRequest.filter)) := by
  cases request with
  | none => rfl
  | some r => exact ScopeFilter.queryOf_eq r.filter

theorem RemoveRequest.query_eq (request : Option RemoveRequest) : (request.map query).getD [] =
    scopeQuery (ScopeFilter.scopeOf (request.bind RemoveRequest.filter)) := by
  cases request with
  | none => rfl
  | some r => exact ScopeFilter.queryOf_eq r.filter

/-- The scope can be read back from the query. -/
theorem Store.scopeOfQuery_scopeQuery (scope : Option String) :
    scopeOfQuery (scopeQuery scope) = scope := by
  cases scope <;> rfl

/-! ## Bodies -/

namespace UpdateRequest

/-- The body of an update is its changes and its filter. -/
theorem body_eq (r : UpdateRequest) :
    r.body = r.changes ++ scopeMembers (ScopeFilter.scopeOf r.filter) := by
  unfold body
  cases r.filter <;> rfl

/-- The fields of a variable that an update can set do not include one that is called like the
filter. -/
theorem filter_not_mem_changes (r : UpdateRequest) : "filter" ∉ r.changes.map Prod.fst := by
  intro hmem
  have hname := ((Fields.names_dropNull_sublist _).subset hmem :
    "filter" ∈ ["value", "variable_type", "protected", "masked", "environment_scope", "raw"])
  simp at hname

/-- A body without its filter holds the changes. -/
theorem erase_filter_body (r : UpdateRequest) : Fields.erase r.body "filter" = r.changes := by
  have hchanges : Fields.erase r.changes "filter" = r.changes := by
    refine List.filter_eq_self.2 fun field hmem => bne_iff_ne.2 fun heq => ?_
    exact r.filter_not_mem_changes (heq ▸ List.mem_map_of_mem hmem)
  have hfilter (scope : Option String) : Fields.erase (scopeMembers scope) "filter" = [] := by
    cases scope <;> rfl
  rw [body_eq]
  unfold Fields.erase at hchanges hfilter ⊢
  rw [List.filter_append, hchanges, hfilter, List.append_nil]

end UpdateRequest

/-- The scope that a body asks for is that of its filter, also where the update sets another one. -/
theorem Store.scopeOfBody_body (r : UpdateRequest) :
    scopeOfBody r.body = ScopeFilter.scopeOf r.filter := by
  have hchanges : r.changes.lookup "filter" = none := Fields.get?_eq_none r.filter_not_mem_changes
  have hget : Fields.get? r.body "filter" =
      (scopeMembers (ScopeFilter.scopeOf r.filter)).lookup "filter" := by
    rw [UpdateRequest.body_eq]
    unfold Fields.get?
    rw [List.lookup_append, hchanges, Option.none_or]
  unfold scopeOfBody
  rw [hget]
  cases r.filter <;> rfl

end CiVariables
