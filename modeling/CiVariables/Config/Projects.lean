import CiVariables.Marker
import CiVariables.Remote.Session

/-!
# Which project a variable belongs to

A declaration names its project by number, by the name of a declared project, or by labels. The
first of these that is given decides. A name stands for the last project declared under it, labels
for the first project that carries them all.
-/

namespace CiVariables

open Schema (Checked Source Value Entries)

/-- A declared project. -/
structure Project where
  name : String
  id : Int
  labels : List (String × String) := []
  deriving DecidableEq, Inhabited

namespace Project

/-- Checks a declared project. -/
def check (source : Source) : Value → Checked Project :=
  Schema.record source "ProjectEntry" fun entries =>
    Schema.closed ["name", "id", "labels"] entries
      ((((Schema.required entries "name" Schema.nonemptyText).map Project.mk).and
        (Schema.required entries "id" Schema.int)).and
        (Schema.optional entries "labels" [] (Schema.dict source Schema.text)))

def dump (p : Project) : Json :=
  .obj [("name", .str p.name), ("id", .int p.id), ("labels", dumpLabels p.labels)]

/-- The project has all these labels, with these values. -/
def carries (p : Project) (labels : List (String × String)) : Bool :=
  labels.all fun (k, v) => p.labels.lookup k == some v

/-- The last project of a name. -/
def ofName? (projects : List Project) (name : String) : Option Project :=
  projects.reverse.find? fun p => p.name == name

/-- The first project that a selector selects. -/
def select? (projects : List Project) (s : Selector) : Option Project :=
  projects.find? fun p => p.carries s.labels

end Project

/-- Why the project of a declaration cannot be found. -/
inductive ProjectError where
  | unknownName (address name : String)
  | noMatch (address : String) (labels : List (String × String))
  | notGiven (address : String)
  deriving DecidableEq, Inhabited

def ProjectError.message : ProjectError → String
  | unknownName address name =>
    address ++ ": project_id_ref names unknown project '" ++ name ++ "'"
  | noMatch address labels =>
    address ++ ": no project matches selector [" ++
      CiVariables.Text.join ", " (labels.map fun (k, v) => k ++ "=" ++ v) ++ "]"
  | notGiven address =>
    address ++ ": one of project_id, project_id_ref or project_id_selector is required"

namespace Declaration

/-- The name of the project that a declaration refers to, if it refers to one by name. -/
def projectName? (d : Declaration) : Option String :=
  (d.references.find? fun r => r.type == some projectType).map (·.name)

/-- The number of the project of a declaration: its own, else that of the project of the name it
gives, else that of the first project with the labels it gives. -/
def resolveProject (d : Declaration) (projects : List Project) : Except ProjectError Int :=
  match d.parameters.projectId with
  | some id => .ok id
  | none =>
    match d.projectName? with
    | some name =>
      match Project.ofName? projects name with
      | some p => .ok p.id
      | none => .error (.unknownName d.address name)
    | none =>
      match d.parameters.selector with
      | some s =>
        match Project.select? projects s with
        | some p => .ok p.id
        | none => .error (.noMatch d.address s.labels)
      | none => .error (.notGiven d.address)

def withProject (d : Declaration) (id : Int) : Declaration :=
  { d with parameters := { d.parameters with projectId := some id } }

end Declaration

/-- A step of loading over all declarations: what became of them, the errors and the log lines. -/
structure Resolution where
  declarations : List Declaration
  errors : List String
  log : List LogLine
  deriving Inhabited

/-- Finds the projects of all declarations. One whose project is not found is left as it is. -/
def resolveProjects (projects : List Project) : List Declaration → Resolution
  | [] => ⟨[], [], []⟩
  | d :: rest =>
    let more := resolveProjects projects rest
    match d.resolveProject projects with
    | .ok id =>
      ⟨d.withProject id :: more.declarations, more.errors,
        ⟨.debug, .references, "Resolved " ++ d.address ++ " to project " ++ toString id⟩ ::
          more.log⟩
    | .error e => ⟨d :: more.declarations, e.message :: more.errors, more.log⟩

end CiVariables
