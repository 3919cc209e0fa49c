import CiVariables.Config.Load
import CiVariables.Proofs.Ending
import CiVariables.Proofs.Environment

/-!
# Which files are accepted

A file that fits its schema is accepted exactly where its names are unique, its projects and values
are found and no two declarations are about one variable (`Config.Consistent`). Otherwise all that
is wrong is told at once, except that identities are only compared where nothing else is wrong
(`Config.problems`). `Unique.duplicates` keeps the owners of the keys that it has seen, and the
induction over it is about those. Accepted declarations pass the checks that planning begins with:
names that differ make addresses that differ, and every declaration has its project.
-/

namespace CiVariables

/-! ## Unique keys -/

namespace Unique

variable {α β : Type} [BEq α] [LawfulBEq α] {key : β → α} {R : β → β → Prop}

/-- Where the reported pairs are all related and no two items are, keys are pairwise different. -/
theorem pairwise_of_duplicates_after {owners : List (α × β)} {l : List β}
    (hreported : ∀ p ∈ duplicates key owners l, R p.1 p.2)
    (hl : l.Pairwise fun a b => ¬R a b) (howners : ∀ o ∈ owners, ∀ b ∈ l, ¬R o.2 b) :
    l.Pairwise (fun a b => key a ≠ key b) ∧ ∀ o ∈ owners, ∀ b ∈ l, o.1 ≠ key b := by
  induction l generalizing owners with
  | nil => exact ⟨.nil, fun _ _ b hb => (List.not_mem_nil hb).elim⟩
  | cons b rest ih =>
    obtain ⟨hfirst, hrest⟩ := List.pairwise_cons.1 hl
    unfold duplicates at hreported
    -- A key that has an owner would be reported with it, and they are not related.
    cases hlookup : owners.lookup (key b) with
    | some owner =>
      obtain ⟨before, after, heq, -⟩ := List.lookup_eq_some_iff.1 hlookup
      have hmem : (key b, owner) ∈ owners := by
        rw [heq]
        exact List.mem_append_right _ List.mem_cons_self
      rw [hlookup] at hreported
      exact absurd (hreported (owner, b) List.mem_cons_self)
        (howners _ hmem b List.mem_cons_self)
    | none =>
      simp only [hlookup] at hreported
      have hnew (o : α × β) (ho : o ∈ owners) : o.1 ≠ key b := by
        intro heq
        have hne := List.lookup_eq_none_iff.1 hlookup o ho
        simp [heq] at hne
      obtain ⟨hpairwise, hkeys⟩ := @ih (owners ++ [(key b, b)]) hreported hrest
        fun o ho b' hb' => by
          rcases List.mem_append.1 ho with ho | ho
          · exact howners o ho b' (List.mem_cons_of_mem b hb')
          · rw [List.mem_singleton.1 ho]
            exact hfirst b' hb'
      refine ⟨List.pairwise_cons.2 ⟨fun b' hb' => ?_, hpairwise⟩, fun o ho => ?_⟩
      · exact hkeys (key b, b) (List.mem_append_right _ List.mem_cons_self) b' hb'
      · exact List.forall_mem_cons.2
          ⟨hnew o ho, fun b' hb' => hkeys o (List.mem_append_left _ ho) b' hb'⟩

/-- If every reported pair is ruled out, the keys are distinct. -/
theorem pairwise_of_duplicates (key : β → α) (R : β → β → Prop) {l : List β}
    (hreported : ∀ p ∈ duplicates key [] l, R p.1 p.2) (hl : l.Pairwise fun a b => ¬R a b) :
    l.Pairwise fun a b => key a ≠ key b :=
  (pairwise_of_duplicates_after hreported hl fun _ ho => (List.not_mem_nil ho).elim).1

theorem duplicates_eq_nil {owners : List (α × β)} {l : List β}
    (h : (owners.map Prod.fst ++ l.map key).Nodup) : duplicates key owners l = [] := by
  induction l generalizing owners with
  | nil => rfl
  | cons b rest ih =>
    have hnew : key b ∉ owners.map Prod.fst := by
      intro hmem
      exact (List.nodup_append.1 h).2.2 _ hmem _ List.mem_cons_self rfl
    have hlookup : owners.lookup (key b) = none := by
      refine List.lookup_eq_none_iff.2 fun o ho => bne_iff_ne.2 fun heq => hnew ?_
      exact heq ▸ List.mem_map_of_mem ho
    unfold duplicates
    rw [hlookup]
    exact ih (by simpa using h)

/-- Nothing is reported exactly where all keys differ. -/
theorem duplicates_eq_nil_iff {l : List β} : duplicates key [] l = [] ↔ (l.map key).Nodup := by
  constructor
  · intro h
    refine List.pairwise_map.2 (pairwise_of_duplicates key (fun _ _ => False) ?_ ?_)
    · rw [h]
      exact nofun
    · exact List.pairwise_of_forall fun _ _ => id
  · exact fun h => duplicates_eq_nil h

end Unique

/-! ## Names and identities -/

/-- The address of a declaration tells its name. -/
theorem address_inj {a b : Declaration} (h : a.address = b.address) : a.name = b.name :=
  (String.append_right_inj _).1 h

theorem pairwise_identity_of_no_errors {ds : List Declaration}
    (hnames : ds.Pairwise fun a b => a.name ≠ b.name) (h : duplicateVariableErrors ds = []) :
    ds.Pairwise fun a b => a.identity ≠ b.identity := by
  have hnone := List.filter_eq_nil_iff.1 (List.map_eq_nil_iff.1 h)
  refine Unique.pairwise_of_duplicates Declaration.identity (fun a b => a.address = b.address)
    (fun p hp => ?_) (hnames.imp fun hne heq => hne (address_inj heq))
  simpa using hnone p hp

/-- No name is reported exactly if they are distinct. -/
theorem duplicateNameErrors_eq_nil_iff {ds : List Declaration} :
    duplicateNameErrors ds = [] ↔ (ds.map Declaration.name).Nodup := by
  unfold duplicateNameErrors
  rw [List.map_eq_nil_iff, Unique.duplicates_eq_nil_iff]
  have hnames : (ds.zipIdx.map fun p => p.1.name) = ds.map Declaration.name := by
    rw [← List.zipIdx_map_fst 0 ds, List.map_map, List.zipIdx_map_fst]
    rfl
  rw [hnames]

/-- No variable is reported exactly if they are distinct. -/
theorem duplicateVariableErrors_eq_nil_iff {ds : List Declaration}
    (hnames : (ds.map Declaration.name).Nodup) :
    duplicateVariableErrors ds = [] ↔ (ds.map Declaration.identity).Nodup := by
  constructor
  · intro h
    exact List.pairwise_map.2 (pairwise_identity_of_no_errors (List.pairwise_map.1 hnames) h)
  · intro h
    unfold duplicateVariableErrors
    rw [Unique.duplicates_eq_nil_iff.2 h]
    rfl

/-! ## Looking up projects and values -/

/-- A step over declarations that keeps their names, and what makes them well formed. -/
structure KeepsNames (f : Declaration → Declaration) : Prop where
  name : ∀ d, (f d).name = d.name
  wellFormed : ∀ d : Declaration, d.WellFormed → (f d).WellFormed

theorem KeepsNames.comp {f g : Declaration → Declaration} (hg : KeepsNames g) (hf : KeepsNames f) :
    KeepsNames (g ∘ f) :=
  ⟨fun d => (hg.name _).trans (hf.name d), fun d hd => hg.wellFormed _ (hf.wellFormed d hd)⟩

namespace Declaration

/-- The declaration with the identifier of its project, if the project is found. -/
def located (projects : List Project) (d : Declaration) : Declaration :=
  match d.resolveProject projects with
  | .ok id => d.withProject id
  | .error _ => d

/-- The declaration with the value of its secret, if the value is found. -/
def revealed (env : Environment) (dotenv : DotenvValues) (d : Declaration) : Declaration :=
  match d.resolveSecret env dotenv with
  | .ok d' => d'
  | .error _ => d

/-- The declaration as it is used: with its project and its value, where they are found. -/
def settled (projects : List Project) (env : Environment) (dotenv : DotenvValues)
    (d : Declaration) : Declaration :=
  (d.located projects).revealed env dotenv

theorem located_eq (projects : List Project) (d : Declaration) :
    d.located projects = d ∨ ∃ n, d.resolveProject projects = .ok n ∧
      d.located projects = d.withProject n := by
  unfold located
  cases d.resolveProject projects with
  | ok n => exact .inr ⟨n, rfl, rfl⟩
  | error e => exact .inl rfl

theorem revealed_eq (env : Environment) (dotenv : DotenvValues) (d : Declaration) :
    d.revealed env dotenv = d ∨ ∃ value, d.revealed env dotenv = d.withValue value := by
  have hobtains := d.obtains_resolveSecret env dotenv
  unfold revealed
  cases hresult : d.resolveSecret env dotenv with
  | error e => exact .inl rfl
  | ok d' =>
    rw [hresult] at hobtains
    cases hobtains with
    | nothing => exact .inl rfl
    | @taken _ value => exact .inr ⟨value, rfl⟩

end Declaration

theorem keepsNames_located (projects : List Project) :
    KeepsNames (Declaration.located projects) := by
  constructor
  · intro d
    obtain h | ⟨n, -, h⟩ := d.located_eq projects
    · rw [h]
    · rw [h]
      rfl
  · intro d hd
    obtain h | ⟨n, -, h⟩ := d.located_eq projects
    · rwa [h]
    · rw [h]
      exact hd.withParameters rfl rfl rfl

theorem keepsNames_revealed (env : Environment) (dotenv : DotenvValues) :
    KeepsNames (Declaration.revealed env dotenv) := by
  constructor
  · intro d
    obtain h | ⟨value, h⟩ := d.revealed_eq env dotenv
    · rw [h]
    · rw [h]
      rfl
  · intro d hd
    obtain h | ⟨value, h⟩ := d.revealed_eq env dotenv
    · rwa [h]
    · rw [h]
      exact hd.withParameters rfl rfl rfl

/-- Settling keeps the names of declarations. -/
theorem keepsNames_settled (projects : List Project) (env : Environment) (dotenv : DotenvValues) :
    KeepsNames (Declaration.settled projects env dotenv) :=
  (keepsNames_revealed env dotenv).comp (keepsNames_located projects)

/-- What looking up projects makes of all declarations, one by one. -/
theorem declarations_resolveProjects (projects : List Project) (ds : List Declaration) :
    (resolveProjects projects ds).declarations = ds.map (Declaration.located projects) := by
  induction ds with
  | nil => rfl
  | cons d rest ih =>
    unfold resolveProjects
    simp only [List.map_cons, ← ih, Declaration.located]
    cases d.resolveProject projects <;> rfl

/-- What looking up values makes of all declarations, one by one. -/
theorem declarations_resolveSecrets (env : Environment) (dotenv : DotenvValues)
    (ds : List Declaration) :
    (resolveSecrets env dotenv ds).declarations = ds.map (Declaration.revealed env dotenv) := by
  induction ds with
  | nil => rfl
  | cons d rest ih =>
    unfold resolveSecrets
    simp only [List.map_cons, ← ih, Declaration.revealed]
    cases d.resolveSecret env dotenv <;> rfl

namespace Declaration

/-- What is said where the project is not found. -/
def projectProblem? (projects : List Project) (d : Declaration) : Option String :=
  match d.resolveProject projects with
  | .ok _ => none
  | .error e => some e.message

/-- What is said where the value is not found, or is given as well. -/
def secretProblem? (env : Environment) (dotenv : DotenvValues) (d : Declaration) : Option String :=
  match d.resolveSecret env dotenv with
  | .ok _ => none
  | .error e => some e.message

variable {projects : List Project} {env : Environment} {dotenv : DotenvValues} {d : Declaration}

theorem projectProblem?_eq_none_iff :
    d.projectProblem? projects = none ↔ ∃ n, d.resolveProject projects = .ok n := by
  unfold projectProblem?
  cases d.resolveProject projects <;> simp

theorem secretProblem?_eq_none_iff :
    d.secretProblem? env dotenv = none ↔ ∀ source, d.parameters.secret = some source →
      d.parameters.value = none ∧ ∃ value, secretValue? env dotenv source.env = some value := by
  unfold secretProblem? resolveSecret
  cases hsecret : d.parameters.secret with
  | none => simp
  | some source =>
    cases hvalue : d.parameters.value with
    | some value => simp
    | none => cases hfound : secretValue? env dotenv source.env <;> simp [hfound]

/-- Values do not depend on projects. -/
theorem secretProblem?_located (projects : List Project) (env : Environment)
    (dotenv : DotenvValues) (d : Declaration) :
    (d.located projects).secretProblem? env dotenv = d.secretProblem? env dotenv := by
  obtain h | ⟨n, -, h⟩ := d.located_eq projects
  · rw [h]
  · rw [h]
    unfold secretProblem? resolveSecret withProject
    simp only
    cases d.parameters.secret with
    | none => rfl
    | some source =>
      cases d.parameters.value with
      | some value => rfl
      | none =>
        cases hfound : secretValue? env dotenv source.env with
        | none =>
          simp only [hfound]
          rfl
        | some value => simp only [hfound]

/-- Looking up a value does not change which variable a declaration is. -/
theorem identity_settled :
    (d.settled projects env dotenv).identity = (d.located projects).identity := by
  unfold settled
  obtain h | ⟨value, h⟩ := (d.located projects).revealed_eq env dotenv
  · rw [h]
  · rw [h]
    rfl

theorem projectId_settled (h : d.projectProblem? projects = none) :
    (d.settled projects env dotenv).parameters.projectId ≠ none := by
  obtain ⟨n, hn⟩ := projectProblem?_eq_none_iff.1 h
  have hlocated : (d.located projects).parameters.projectId = some n := by
    unfold located
    rw [hn]
    rfl
  unfold settled
  obtain h | ⟨value, h⟩ := (d.located projects).revealed_eq env dotenv
  · rw [h, hlocated]
    exact nofun
  · rw [h]
    exact Option.ne_none_iff_exists'.2 ⟨n, hlocated⟩

theorem value_settled (h : d.secretProblem? env dotenv = none)
    (hsecret : (d.settled projects env dotenv).parameters.secret ≠ none) :
    (d.settled projects env dotenv).parameters.value ≠ none := by
  have h : (d.located projects).secretProblem? env dotenv = none :=
    (secretProblem?_located ..).trans h
  have hobtains := (d.located projects).obtains_resolveSecret env dotenv
  unfold secretProblem? at h
  unfold settled revealed at hsecret ⊢
  cases hresult : (d.located projects).resolveSecret env dotenv with
  | error e =>
    rw [hresult] at h
    cases h
  | ok d' =>
    rw [hresult] at hobtains hsecret
    exact hobtains.value_ne_none hsecret

end Declaration

/-- The errors of looking up projects, in the order of the declarations. -/
theorem errors_resolveProjects (projects : List Project) (ds : List Declaration) :
    (resolveProjects projects ds).errors = ds.filterMap (Declaration.projectProblem? projects) := by
  induction ds with
  | nil => rfl
  | cons d rest ih =>
    unfold resolveProjects
    rw [List.filterMap_cons, ← ih]
    unfold Declaration.projectProblem?
    cases d.resolveProject projects <;> rfl

/-- The errors of looking up values, in the order of the declarations. -/
theorem errors_resolveSecrets (env : Environment) (dotenv : DotenvValues) (ds : List Declaration) :
    (resolveSecrets env dotenv ds).errors =
      ds.filterMap (Declaration.secretProblem? env dotenv) := by
  induction ds with
  | nil => rfl
  | cons d rest ih =>
    unfold resolveSecrets
    rw [List.filterMap_cons, ← ih]
    unfold Declaration.secretProblem?
    cases d.resolveSecret env dotenv <;> rfl

/-! ## Files -/

namespace Config

variable {env : Environment} {dotenv : DotenvValues} {c : Config}

/-- The declarations as they are used. -/
def settled (env : Environment) (dotenv : DotenvValues) (c : Config) : List Declaration :=
  c.declarations.map (Declaration.settled c.projects env dotenv)

/-- All that is wrong: names, then projects, then values, and identities only where none of these is
wrong. -/
def problems (env : Environment) (dotenv : DotenvValues) (c : Config) : List String :=
  let first := duplicateNameErrors c.declarations ++
    c.declarations.filterMap (Declaration.projectProblem? c.projects) ++
    c.declarations.filterMap (Declaration.secretProblem? env dotenv)
  if first = [] then duplicateVariableErrors (c.settled env dotenv) else first

/-- The content of a file holds together: names are unique, projects are found, values are found
where they are to be taken from the environment and are not given as well, and no two declarations
are about the same project, key and scope. -/
structure Consistent (env : Environment) (dotenv : DotenvValues) (c : Config) : Prop where
  names : (c.declarations.map Declaration.name).Nodup
  projects : ∀ d ∈ c.declarations, ∃ n, d.resolveProject c.projects = .ok n
  secrets : ∀ d ∈ c.declarations, ∀ source, d.parameters.secret = some source →
    d.parameters.value = none ∧ ∃ value, secretValue? env dotenv source.env = some value
  identities : (c.declarations.map fun d => (d.located c.projects).identity).Nodup

theorem names_settled (c : Config) :
    (c.settled env dotenv).map Declaration.name = c.declarations.map Declaration.name := by
  unfold settled
  rw [List.map_map]
  exact List.map_congr_left fun d _ => (keepsNames_settled c.projects env dotenv).name d

theorem identities_settled (c : Config) :
    (c.settled env dotenv).map Declaration.identity =
      c.declarations.map fun d => (d.located c.projects).identity := by
  unfold settled
  rw [List.map_map]
  exact List.map_congr_left fun d _ => Declaration.identity_settled

/-- Nothing is wrong exactly where the content holds together. -/
theorem problems_eq_nil_iff : c.problems env dotenv = [] ↔ c.Consistent env dotenv := by
  have hvariables (hnames : (c.declarations.map Declaration.name).Nodup) :
      duplicateVariableErrors (c.settled env dotenv) = [] ↔
        (c.declarations.map fun d => (d.located c.projects).identity).Nodup := by
    rw [← c.identities_settled]
    exact duplicateVariableErrors_eq_nil_iff (c.names_settled ▸ hnames)
  have hfirst : duplicateNameErrors c.declarations ++
      c.declarations.filterMap (Declaration.projectProblem? c.projects) ++
      c.declarations.filterMap (Declaration.secretProblem? env dotenv) = [] ↔
      (c.declarations.map Declaration.name).Nodup ∧
        (∀ d ∈ c.declarations, ∃ n, d.resolveProject c.projects = .ok n) ∧
        ∀ d ∈ c.declarations, ∀ source, d.parameters.secret = some source →
          d.parameters.value = none ∧
            ∃ value, secretValue? env dotenv source.env = some value := by
    simp only [List.append_eq_nil_iff, duplicateNameErrors_eq_nil_iff,
      List.filterMap_eq_nil_iff, Declaration.projectProblem?_eq_none_iff,
      Declaration.secretProblem?_eq_none_iff, and_assoc]
  unfold problems
  simp only
  split
  · next hnone =>
    obtain ⟨hnames, hprojects, hsecrets⟩ := hfirst.1 hnone
    rw [hvariables hnames]
    exact ⟨fun h => ⟨hnames, hprojects, hsecrets, h⟩, fun h => h.identities⟩
  · next hsome =>
    exact ⟨fun h => absurd h hsome,
      fun h => absurd (hfirst.2 ⟨h.names, h.projects, h.secrets⟩) hsome⟩

/-- A file settles unless it has problems, and then these are its errors. -/
theorem settle_eq (env : Environment) (dotenv : DotenvValues) (c : Config) :
    (c.settle env dotenv).1 =
      if c.problems env dotenv = [] then .ok { c with declarations := c.settled env dotenv }
      else .error (.config (.unresolved (c.problems env dotenv))) := by
  have hsecrets : (resolveSecrets env dotenv
      (resolveProjects c.projects c.declarations).declarations).errors =
      c.declarations.filterMap (Declaration.secretProblem? env dotenv) := by
    rw [errors_resolveSecrets, declarations_resolveProjects, List.filterMap_map]
    exact congrArg (c.declarations.filterMap ·)
      (funext fun d => Declaration.secretProblem?_located c.projects env dotenv d)
  have hsettled : (resolveSecrets env dotenv
      (resolveProjects c.projects c.declarations).declarations).declarations =
      c.settled env dotenv := by
    rw [declarations_resolveSecrets, declarations_resolveProjects, List.map_map]
    rfl
  have herrors : errorsOf c.declarations (resolveProjects c.projects c.declarations)
      (resolveSecrets env dotenv (resolveProjects c.projects c.declarations).declarations) =
      c.problems env dotenv := by
    unfold errorsOf problems
    rw [errors_resolveProjects, hsecrets, hsettled]
    simp only [List.isEmpty_iff]
  unfold settle
  simp only [herrors, hsettled, List.isEmpty_iff]
  split <;> rfl

/-- Raw entries are accepted where they fit the schema and their content holds together. -/
theorem load_eq_ok_iff {entries : Schema.Entries} :
    (load env dotenv entries).1 = .ok c ↔ ∃ declared : Config,
      ofEntries env dotenv entries = .ok declared ∧ declared.Consistent env dotenv ∧
        c = { declared with declarations := declared.settled env dotenv } := by
  unfold load
  cases ofEntries env dotenv entries with
  | error failure => exact ⟨nofun, nofun⟩
  | ok declared =>
    simp only [settle_eq, Except.ok.injEq, exists_eq_left', ← problems_eq_nil_iff]
    split
    · next hnone =>
      simp only [Except.ok.injEq, hnone, true_and]
      exact eq_comm
    · next hsome => exact ⟨nofun, fun h => absurd h.1 hsome⟩

/-- A declaration file is loaded as its raw entries are. -/
theorem loadFile_eq_load {s : Surroundings} {path : String} {entries : Schema.Entries}
    {warnings : List LogLine} (hentries : readEntries s.files path = .ok entries)
    (hdotenv : readDotenv s path = .ok (dotenv, warnings)) :
    (loadFile s path).1 = (load s.env dotenv entries).1 := by
  unfold loadFile
  rw [hentries]
  simp only
  rw [hdotenv]
  simp only
  split <;> simp only [*]

/-- Declarations of a file that holds together pass the checks that planning begins with. -/
theorem Consistent.plannable (h : c.Consistent env dotenv) :
    ((c.settled env dotenv).map Declaration.address).Nodup ∧
      ∀ d ∈ c.settled env dotenv, d.parameters.projectId ≠ none := by
  constructor
  · have hnames : ((c.settled env dotenv).map Declaration.name).Nodup := c.names_settled ▸ h.names
    exact List.pairwise_map.2
      ((List.pairwise_map.1 hnames).imp fun hne heq => hne (address_inj heq))
  · intro d hd
    obtain ⟨declared, hdeclared, rfl⟩ := List.mem_map.1 hd
    exact Declaration.projectId_settled
      (Declaration.projectProblem?_eq_none_iff.2 (h.projects declared hdeclared))

end Config

end CiVariables
