import CiVariables.Proofs.Loading

/-!
# Where projects are found

A declaration belongs to the project it gives by number, else to the last one declared under the
name it points at, else to the first one with all the labels it selects (`Declaration.BelongsTo`);
where the first of these that is there leads to no project, it is told which
(`Declaration.Unplaced`). `Resolves` says what becomes of a list, declaration by declaration, and
the look-up over a list is that (`resolveProjects_resolves`). Once a number is found it is the one
given, so looking again, over whatever projects, does not move it.

Names of projects need not be unique, so the order of the projects may decide which is meant by one:
in some order it is any project of that name (`Config.named_project_of_perm`).
-/

namespace CiVariables

/-! ## The names that a declaration refers to -/

namespace Record

variable {fields : Record}

theorem ownReferences_eq_nil (h : ∀ field ∈ fields, Marker.target? field.2.1 = none) :
    ownReferences fields = [] := by
  induction fields with
  | nil => rfl
  | cons field rest ih =>
    obtain ⟨hfield, hrest⟩ := List.forall_mem_cons.1 h
    rw [ownReferences, hfield, ih hrest]
    rfl

theorem nestedReferences_eq_nil (h : ∀ field ∈ fields, referencesIn field.2.2 = []) :
    nestedReferences fields = [] := by
  induction fields with
  | nil => rfl
  | cons field rest ih =>
    obtain ⟨hfield, hrest⟩ := List.forall_mem_cons.1 h
    rw [nestedReferences, hfield, ih hrest]
    rfl

theorem referencesIn_ofOption {α : Type} {f : α → Attribute} (o : Option α)
    (h : ∀ a, referencesIn (f a) = []) : referencesIn (.ofOption f o) = [] := by
  cases o with
  | none => rfl
  | some a => exact h a

end Record

/-- No parameter holds a record. -/
theorem Parameters.nestedReferences_record (p : Parameters) :
    Record.nestedReferences p.record = [] := by
  refine Record.nestedReferences_eq_nil ?_
  simp only [record, List.forall_mem_cons, List.not_mem_nil, false_implies, implies_true, and_true]
  refine ⟨rfl, ?_, ?_, ?_, ?_, ?_, ?_, ?_, ?_, ?_, ?_⟩
  all_goals exact Record.referencesIn_ofOption _ fun _ => rfl

/-- A declaration refers to nothing but the project that it names. -/
theorem Declaration.references_eq (d : Declaration) :
    d.references =
      (d.parameters.reference.map fun r => ⟨r.name, some projectType⟩).toList := by
  have hown : Record.ownReferences d.record = [] :=
    Record.ownReferences_eq_nil (by simp [record, Marker.target?])
  have hparameters : Record.ownReferences d.parameters.record =
      (d.parameters.reference.map fun r => ⟨r.name, some projectType⟩).toList := by
    cases h : d.parameters.reference <;>
      simp [Parameters.record, Record.ownReferences, Marker.target?, h, Attribute.ofOption,
        Attribute.names]
  have hnested : Record.nestedReferences d.record = Record.ownReferences d.parameters.record := by
    simp [record, Record.nestedReferences, Record.referencesIn,
      d.parameters.nestedReferences_record]
  rw [references, Record.references, hown, hnested, hparameters, List.nil_append]

/-- The only reference by name of a declaration is the one in its parameters. -/
theorem Declaration.projectName?_eq (d : Declaration) :
    d.projectName? = d.parameters.reference.map (·.name) := by
  unfold projectName?
  rw [d.references_eq]
  cases d.parameters.reference <;> rfl

/-! ## Looking for a project -/

/-- A search from the end finds the last hit. -/
theorem find?_reverse_eq_some_iff {α : Type} {test : α → Bool} {l : List α} {a : α} :
    l.reverse.find? test = some a ↔
      test a = true ∧ ∃ before after, l = before ++ a :: after ∧ ∀ x ∈ after, test x = false := by
  rw [List.find?_eq_some_iff_append]
  simp only [Bool.not_eq_true']
  constructor
  · rintro ⟨ha, after, before, heq, hafter⟩
    refine ⟨ha, before.reverse, after.reverse, ?_, fun x hx => hafter x (List.mem_reverse.1 hx)⟩
    rw [← List.reverse_reverse l, heq]
    simp
  · rintro ⟨ha, before, after, rfl, hafter⟩
    exact ⟨ha, after.reverse, before.reverse, by simp,
      fun x hx => hafter x (List.mem_reverse.1 hx)⟩

namespace Project

variable {projects : List Project} {p : Project} {name : String} {labels : List (String × String)}

/-- The last project declared under a name. -/
structure IsLast (projects : List Project) (name : String) (p : Project) : Prop where
  name_eq : p.name = name
  last : ∃ before after, projects = before ++ p :: after ∧ ∀ q ∈ after, q.name ≠ name

/-- Every label is there, with the same value. -/
def Carries (p : Project) (labels : List (String × String)) : Prop :=
  ∀ label ∈ labels, p.labels.lookup label.1 = some label.2

/-- The first project with all labels. -/
structure IsFirst (projects : List Project) (labels : List (String × String)) (p : Project) :
    Prop where
  carries : p.Carries labels
  first : ∃ before after, projects = before ++ p :: after ∧ ∀ q ∈ before, ¬q.Carries labels

theorem carries_iff : p.carries labels = true ↔ p.Carries labels := by
  simp [carries, Carries]

/-- The project of a name is the last one of that name. -/
theorem ofName?_eq_some_iff : ofName? projects name = some p ↔ IsLast projects name p := by
  unfold ofName?
  rw [find?_reverse_eq_some_iff]
  simp only [beq_iff_eq, beq_eq_false_iff_ne]
  exact ⟨fun ⟨hname, hlast⟩ => ⟨hname, hlast⟩, fun h => ⟨h.name_eq, h.last⟩⟩

theorem ofName?_eq_none_iff : ofName? projects name = none ↔ ∀ p ∈ projects, p.name ≠ name := by
  simp [ofName?]

/-- The project of labels is the first one that carries them. -/
theorem select?_eq_some_iff {s : Selector} :
    select? projects s = some p ↔ IsFirst projects s.labels p := by
  unfold select?
  rw [List.find?_eq_some_iff_append, carries_iff]
  simp only [Bool.not_eq_true', ← Bool.not_eq_true, carries_iff]
  exact ⟨fun ⟨hp, h⟩ => ⟨hp, h⟩, fun ⟨hp, h⟩ => ⟨hp, h⟩⟩

theorem select?_eq_none_iff {s : Selector} :
    select? projects s = none ↔ ∀ p ∈ projects, ¬p.Carries s.labels := by
  unfold select?
  simp only [List.find?_eq_none, carries_iff]

end Project

/-! ## The project of a declaration -/

namespace Declaration

variable {projects : List Project} {d : Declaration}

/-- The project that a declaration belongs to. -/
inductive BelongsTo (projects : List Project) (d : Declaration) : Int → Prop
  | given {id : Int} (hid : d.parameters.projectId = some id) : BelongsTo projects d id
  | named {r : Reference} {p : Project} (hid : d.parameters.projectId = none)
      (href : d.parameters.reference = some r) (hp : Project.IsLast projects r.name p) :
      BelongsTo projects d p.id
  | selected {s : Selector} {p : Project} (hid : d.parameters.projectId = none)
      (href : d.parameters.reference = none) (hselector : d.parameters.selector = some s)
      (hp : Project.IsFirst projects s.labels p) : BelongsTo projects d p.id

/-- Why a declaration belongs to no project. -/
inductive Unplaced (projects : List Project) (d : Declaration) : ProjectError → Prop
  | named {r : Reference} (hid : d.parameters.projectId = none)
      (href : d.parameters.reference = some r) (hnone : ∀ p ∈ projects, p.name ≠ r.name) :
      Unplaced projects d (.unknownName d.address r.name)
  | selected {s : Selector} (hid : d.parameters.projectId = none)
      (href : d.parameters.reference = none) (hselector : d.parameters.selector = some s)
      (hnone : ∀ p ∈ projects, ¬p.Carries s.labels) :
      Unplaced projects d (.noMatch d.address s.labels)
  | notGiven (hid : d.parameters.projectId = none) (href : d.parameters.reference = none)
      (hselector : d.parameters.selector = none) : Unplaced projects d (.notGiven d.address)

/-- The look-up by cases of what a declaration gives. -/
theorem resolveProject_spec (projects : List Project) (d : Declaration) :
    match d.resolveProject projects with
    | .ok id => d.BelongsTo projects id
    | .error e => d.Unplaced projects e := by
  unfold resolveProject
  rw [d.projectName?_eq]
  cases hid : d.parameters.projectId with
  | some id => exact .given hid
  | none =>
    cases href : d.parameters.reference with
    | some r =>
      cases hp : Project.ofName? projects r.name with
      | some p =>
        simp only [Option.map_some, hp]
        exact .named hid href (Project.ofName?_eq_some_iff.1 hp)
      | none =>
        simp only [Option.map_some, hp]
        exact .named hid href (Project.ofName?_eq_none_iff.1 hp)
    | none =>
      cases hselector : d.parameters.selector with
      | some s =>
        cases hp : Project.select? projects s with
        | some p =>
          simp only [Option.map_none, hp]
          exact .selected hid href hselector (Project.select?_eq_some_iff.1 hp)
        | none =>
          simp only [Option.map_none, hp]
          exact .selected hid href hselector (Project.select?_eq_none_iff.1 hp)
      | none => exact .notGiven hid href hselector

theorem BelongsTo.resolveProject_eq {id : Int} (h : d.BelongsTo projects id) :
    d.resolveProject projects = .ok id := by
  unfold resolveProject
  rw [d.projectName?_eq]
  cases h with
  | given hid => simp only [hid]
  | named hid href hp => simp only [hid, href, Option.map_some, Project.ofName?_eq_some_iff.2 hp]
  | selected hid href hselector hp =>
    simp only [hid, href, hselector, Option.map_none, Project.select?_eq_some_iff.2 hp]

theorem Unplaced.resolveProject_eq {e : ProjectError} (h : d.Unplaced projects e) :
    d.resolveProject projects = .error e := by
  unfold resolveProject
  rw [d.projectName?_eq]
  cases h with
  | named hid href hnone =>
    simp only [hid, href, Option.map_some, Project.ofName?_eq_none_iff.2 hnone]
  | selected hid href hselector hnone =>
    simp only [hid, href, hselector, Option.map_none, Project.select?_eq_none_iff.2 hnone]
  | notGiven hid href hselector => simp only [hid, href, hselector, Option.map_none]

/-- The project that is found is the one that the declaration belongs to. -/
theorem resolveProject_eq_ok_iff {id : Int} :
    d.resolveProject projects = .ok id ↔ d.BelongsTo projects id := by
  refine ⟨fun h => ?_, BelongsTo.resolveProject_eq⟩
  have hspec := d.resolveProject_spec projects
  rwa [h] at hspec

/-- No project is found exactly if the declaration is unplaced, for the reason that is told. -/
theorem resolveProject_eq_error_iff {e : ProjectError} :
    d.resolveProject projects = .error e ↔ d.Unplaced projects e := by
  refine ⟨fun h => ?_, Unplaced.resolveProject_eq⟩
  have hspec := d.resolveProject_spec projects
  rwa [h] at hspec

theorem withProject_given {id : Int} (h : d.parameters.projectId = some id) :
    d.withProject id = d := by
  unfold withProject
  rw [← h]

/-- A given number decides, whatever the projects. -/
theorem located_of_given (projects : List Project) (h : d.parameters.projectId ≠ none) :
    d.located projects = d := by
  obtain ⟨id, hid⟩ := Option.ne_none_iff_exists'.1 h
  unfold located
  rw [(BelongsTo.given hid).resolveProject_eq]
  exact withProject_given hid

/-- A second look-up over the same projects finds nothing new and misses the same. -/
theorem resolveProject_located (projects : List Project) (d : Declaration) :
    (d.located projects).resolveProject projects = d.resolveProject projects := by
  obtain h | ⟨id, hfound, h⟩ := d.located_eq projects
  · rw [h]
  · rw [h, hfound]
    exact (BelongsTo.given rfl).resolveProject_eq

/-- Looking up projects again changes nothing. -/
theorem located_located (projects : List Project) (d : Declaration) :
    (d.located projects).located projects = d.located projects := by
  obtain h | ⟨id, -, h⟩ := d.located_eq projects
  · rw [h, h]
  · rw [h]
    exact located_of_given projects (Option.some_ne_none id)

end Declaration

/-! ## The projects of all declarations -/

/-- What becomes of declarations whose projects are looked up, and what is told: one that belongs to
a project gets its number and keeps all else, one that does not is left as it is. -/
inductive Resolves (projects : List Project) :
    List Declaration → List Declaration → List String → Prop
  | nil : Resolves projects [] [] []
  | found {d : Declaration} {id : Int} {ds ds' : List Declaration} {errors : List String}
      (hd : d.BelongsTo projects id) (hrest : Resolves projects ds ds' errors) :
      Resolves projects (d :: ds) (d.withProject id :: ds') errors
  | missing {d : Declaration} {e : ProjectError} {ds ds' : List Declaration} {errors : List String}
      (hd : d.Unplaced projects e) (hrest : Resolves projects ds ds' errors) :
      Resolves projects (d :: ds) (d :: ds') (e.message :: errors)

/-- The projects of all declarations are found one by one. -/
theorem resolves (projects : List Project) (ds : List Declaration) :
    Resolves projects ds (resolveProjects projects ds).declarations
      (resolveProjects projects ds).errors := by
  induction ds with
  | nil => exact .nil
  | cons d rest ih =>
    unfold resolveProjects
    cases h : d.resolveProject projects with
    | ok id => exact .found (Declaration.resolveProject_eq_ok_iff.1 h) ih
    | error e => exact .missing (Declaration.resolveProject_eq_error_iff.1 h) ih

/-- Over the same projects a second look-up says what the first one said. -/
theorem errors_resolveProjects_again (projects : List Project) (ds : List Declaration) :
    (resolveProjects projects (resolveProjects projects ds).declarations).errors =
      (resolveProjects projects ds).errors := by
  rw [declarations_resolveProjects, errors_resolveProjects, errors_resolveProjects,
    List.filterMap_map]
  refine congrArg (ds.filterMap ·) (funext fun d => ?_)
  simp only [Function.comp_apply, Declaration.projectProblem?, d.resolveProject_located projects]

/-- **Where projects are found.** A declaration's project is its number, or the last one of the name
it points at, or the first one with the labels it selects, and the look-up fails exactly where the
first of these that is there leads nowhere. Over a list every declaration is looked up, those found
get their numbers, and the others are told in their order. Looking again moves no number that is
set, and over the same projects says the same. -/
theorem resolveProjects_resolves (projects : List Project) (ds : List Declaration) :
    (∀ d : Declaration,
      (∀ id, d.resolveProject projects = .ok id ↔ d.BelongsTo projects id) ∧
      ∀ e, d.resolveProject projects = .error e ↔ d.Unplaced projects e) ∧
    let once := resolveProjects projects ds
    Resolves projects ds once.declarations once.errors ∧
    (∀ others, List.Forall₂
      (fun before after => before.parameters.projectId ≠ none → after = before)
      once.declarations (resolveProjects others once.declarations).declarations) ∧
    (resolveProjects projects once.declarations).declarations = once.declarations ∧
    (resolveProjects projects once.declarations).errors = once.errors := by
  refine ⟨fun d => ⟨fun _ => Declaration.resolveProject_eq_ok_iff,
    fun _ => Declaration.resolveProject_eq_error_iff⟩, resolves projects ds, fun others => ?_, ?_,
    errors_resolveProjects_again projects ds⟩
  · rw [declarations_resolveProjects others]
    exact List.forall₂_map_right_iff.2
      (List.forall₂_same.2 fun d _ h => d.located_of_given others h)
  · rw [declarations_resolveProjects, declarations_resolveProjects, List.map_map]
    exact List.map_congr_left fun d _ => d.located_located projects

/-- Of two projects of one name the last counts, of two with the labels the first; a declaration
whose project is not there keeps all it says. -/
example :
    let projects : List Project :=
      [⟨"infra", 1, [("team", "a")]⟩, ⟨"infra", 2, [("team", "a"), ("stage", "live")]⟩]
    let named : Declaration := ⟨"a", "", { key := "K", reference := some ⟨"infra"⟩ }⟩
    let lost : Declaration := ⟨"b", "", { key := "L", reference := some ⟨"web"⟩ }⟩
    let selected : Declaration := ⟨"c", "", { key := "M", selector := some ⟨[("team", "a")]⟩ }⟩
    (resolveProjects projects [named, lost, selected]).declarations =
      [named.withProject 2, lost, selected.withProject 1] := by
  decide +kernel

/-! ## Reordering the projects -/

namespace Project

variable {projects : List Project} {p : Project} {name : String}

theorem IsLast.mem (h : IsLast projects name p) : p ∈ projects := by
  obtain ⟨before, after, rfl, -⟩ := h.last
  exact List.mem_append_right _ List.mem_cons_self

theorem exists_isLast (hp : p ∈ projects) (hname : p.name = name) :
    ∃ q, IsLast projects name q := by
  cases hq : ofName? projects name with
  | some q => exact ⟨q, ofName?_eq_some_iff.1 hq⟩
  | none => exact absurd hname (ofName?_eq_none_iff.1 hq p hp)

/-- Any project of a name can be put last. -/
theorem exists_perm_isLast (hp : p ∈ projects) (hname : p.name = name) :
    ∃ others, others.Perm projects ∧ IsLast others name p := by
  obtain ⟨before, after, rfl⟩ := List.append_of_mem hp
  refine ⟨(before ++ after) ++ [p], ?_, hname, before ++ after, [], rfl, ?_⟩
  · exact (List.perm_append_singleton p _).trans List.perm_middle.symm
  · exact fun _ hq => absurd hq List.not_mem_nil

end Project

namespace Declaration

variable {projects others : List Project} {d : Declaration} {r : Reference}

theorem belongsTo_of_reference {id : Int} (hid : d.parameters.projectId = none)
    (href : d.parameters.reference = some r) (h : d.BelongsTo projects id) :
    ∃ p, Project.IsLast projects r.name p ∧ p.id = id := by
  cases h with
  | given hgiven => exact absurd (hid.symm.trans hgiven) nofun
  | named _ href' hp =>
    cases Option.some.inj (href.symm.trans href')
    exact ⟨_, hp, rfl⟩
  | selected _ hnone => exact absurd (href.symm.trans hnone) nofun

/-- In whatever order, a name stands for one of the projects declared under it. -/
theorem resolveProject_of_perm (hid : d.parameters.projectId = none)
    (href : d.parameters.reference = some r) (hfound : ∃ id, d.resolveProject projects = .ok id)
    (hperm : others.Perm projects) :
    ∃ p ∈ projects, p.name = r.name ∧ d.resolveProject others = .ok p.id := by
  obtain ⟨id, hfound⟩ := hfound
  obtain ⟨p, hp, -⟩ := belongsTo_of_reference hid href (resolveProject_eq_ok_iff.1 hfound)
  obtain ⟨q, hq⟩ := Project.exists_isLast (hperm.mem_iff.2 hp.mem) hp.name_eq
  exact ⟨q, hperm.mem_iff.1 hq.mem, hq.name_eq, (BelongsTo.named hid href hq).resolveProject_eq⟩

/-- In some order it stands for any of them. -/
theorem exists_perm_resolveProject {p : Project} (hid : d.parameters.projectId = none)
    (href : d.parameters.reference = some r) (hp : p ∈ projects) (hname : p.name = r.name) :
    ∃ others, others.Perm projects ∧ d.resolveProject others = .ok p.id := by
  obtain ⟨others, hperm, hlast⟩ := Project.exists_perm_isLast hp hname
  exact ⟨others, hperm, (BelongsTo.named hid href hlast).resolveProject_eq⟩

end Declaration

namespace Config

variable {env : Environment} {dotenv : DotenvValues} {entries : Schema.Entries} {declared : Config}

/-- **What a project's name settles.** However the projects of an accepted file are put, a variable
that names its project is found one declared under that name. It is found the same one in every
order exactly where all projects of that name are one, by their numbers. -/
theorem named_project_of_perm (hchecked : ofEntries env dotenv entries = .ok declared)
    (haccepted : ∃ c, (load env dotenv entries).1 = .ok c) {d : Declaration}
    (hd : d ∈ declared.declarations) {r : Reference} (hid : d.parameters.projectId = none)
    (href : d.parameters.reference = some r) :
    (∀ projects, projects.Perm declared.projects →
      ∃ p ∈ declared.projects, p.name = r.name ∧ d.resolveProject projects = .ok p.id) ∧
    ((∀ projects, projects.Perm declared.projects →
        d.resolveProject projects = d.resolveProject declared.projects) ↔
      ∀ p ∈ declared.projects, ∀ q ∈ declared.projects,
        p.name = r.name → q.name = r.name → p.id = q.id) := by
  have hfound : ∃ id, d.resolveProject declared.projects = .ok id := by
    obtain ⟨c, hload⟩ := haccepted
    obtain ⟨declared', hchecked', hconsistent, -⟩ := load_eq_ok_iff.1 hload
    cases hchecked.symm.trans hchecked'
    exact hconsistent.projects d hd
  refine ⟨fun projects => Declaration.resolveProject_of_perm hid href hfound, ?_, ?_⟩
  · intro hsame p hp q hq hpname hqname
    obtain ⟨projects, hperm, hresolve⟩ :=
      Declaration.exists_perm_resolveProject hid href hp hpname
    obtain ⟨projects', hperm', hresolve'⟩ :=
      Declaration.exists_perm_resolveProject hid href hq hqname
    rw [hsame projects hperm] at hresolve
    rw [hsame projects' hperm', hresolve] at hresolve'
    exact Except.ok.inj hresolve'
  · intro hone projects hperm
    obtain ⟨p, hp, hpname, hresolve⟩ :=
      Declaration.resolveProject_of_perm hid href hfound hperm
    obtain ⟨q, hq, hqname, hresolve'⟩ :=
      Declaration.resolveProject_of_perm hid href hfound (List.Perm.refl _)
    rw [hresolve, hresolve', hone p hp q hq hpname hqname]

/-- A variable of the project called infra. -/
def inInfra : Declaration := ⟨"a", "", { key := "K", reference := some ⟨"infra"⟩ }⟩

/-- The raw entries of a file with projects and that variable. -/
def namingEntries (projects : List (String × Int)) : Schema.Entries :=
  [(.text "provider", .map
    [(.text "host", .text "https://gitlab.example.com"), (.text "token", .text "t")]),
    (.text "projects", .list (projects.map fun (name, id) =>
      .map [(.text "name", .text name), (.text "id", .int id)])),
    (.text "variables", .list [.map
      [(.text "name", .text "a"), (.text "for_provider", .map
        [(.text "key", .text "K"),
          (.text "project_id_ref", .map [(.text "name", .text "infra")])])]])]

/-- The file of those entries. -/
def namingFile (projects : List (String × Int)) : Config :=
  ⟨⟨some "https://gitlab.example.com", some "t", true⟩,
    projects.map fun (name, id) => ⟨name, id, []⟩, [inInfra]⟩

/-- The only project of the name is found in either order. -/
theorem named_project_of_perm_once :
    let projects : List (String × Int) := [("infra", 1), ("web", 2)]
    ofEntries [] [] (namingEntries projects) = .ok (namingFile projects) ∧
      (∃ c, (load [] [] (namingEntries projects)).1 = .ok c) ∧
      inInfra ∈ (namingFile projects).declarations ∧
      [⟨"web", 2, []⟩, ⟨"infra", 1, []⟩].Perm (namingFile projects).projects ∧
      inInfra.resolveProject [⟨"web", 2, []⟩, ⟨"infra", 1, []⟩] =
        inInfra.resolveProject (namingFile projects).projects := by
  intro projects
  have hchecked : ofEntries [] [] (namingEntries projects) = .ok (namingFile projects) := rfl
  have haccepted : ∃ c, (load [] [] (namingEntries projects)).1 = .ok c := ⟨_, rfl⟩
  have hd : inInfra ∈ (namingFile projects).declarations := List.mem_singleton_self inInfra
  have hperm : [⟨"web", 2, []⟩, ⟨"infra", 1, []⟩].Perm (namingFile projects).projects :=
    List.Perm.swap _ _ _
  exact ⟨hchecked, haccepted, hd, hperm,
    (named_project_of_perm hchecked haccepted hd rfl rfl).2.2 (by decide) _ hperm⟩

/-- Two projects of one name are accepted, and the order decides which of them is meant. -/
theorem order_of_projects_matters :
    let projects : List (String × Int) := [("infra", 1), ("infra", 2)]
    ofEntries [] [] (namingEntries projects) = .ok (namingFile projects) ∧
      (∃ c, (load [] [] (namingEntries projects)).1 = .ok c) ∧
      inInfra ∈ (namingFile projects).declarations ∧ inInfra.parameters.projectId = none ∧
      inInfra.parameters.reference = some ⟨"infra"⟩ ∧
      (namingFile projects).projects.reverse.Perm (namingFile projects).projects ∧
      inInfra.resolveProject (namingFile projects).projects = .ok 2 ∧
      inInfra.resolveProject (namingFile projects).projects.reverse = .ok 1 := by
  refine ⟨rfl, ⟨_, rfl⟩, List.mem_singleton_self inInfra, rfl, rfl, List.reverse_perm _, ?_, ?_⟩
  · decide
  · decide

end Config

end CiVariables
