import CiVariables.Remote.Session

/-!
# The variables client

The operations of the service with typed requests and answers. What the service answers depends only
on what is sent: the project, the key, and the query parameters or the body that a request is
rendered to. An answer that is not a variable is a failure, also where the store has already
changed.
-/

namespace CiVariables.Client

open CiVariables

/-- The refusal of the service where no entry is addressed. -/
def notFound (kind : ServiceErrorKind) : Failure :=
  .service ⟨kind, Failure.notFoundText, some 404⟩

/-- Reads an answer as a variable. -/
def readAnswer (attributes : Fields) : Work Observed :=
  Work.ofChecked "RemoteVariable" (Observed.check .data (.ofJson (.obj attributes)))

/-- Reads answers in order, up to the first that is not a variable. -/
def readAnswers : List Fields → Work (List Observed)
  | [] => pure []
  | a :: rest => do
    let o ← readAnswer a
    let os ← readAnswers rest
    pure (o :: os)

/-- Reads all variables of a project. -/
def listVariables (project : ProjectId) : Work (List Observed) := do
  Work.call ⟨.list, project, none, [("get_all", .bool true)]⟩
  readAnswers ((Store.ofProject (← Work.entries) project).map Entry.attributes)

/-- Reads the variable of a key. Without options there are no query parameters. -/
def getVariable (project : ProjectId) (key : String) (request : Option GetRequest) :
    Work Observed := do
  let query := (request.map GetRequest.query).getD []
  Work.call ⟨.get, project, some key, query⟩
  match (← Work.entries).fetch? project key query with
  | some e => readAnswer e.attributes
  | none => throw (notFound .get)

/-- Creates a variable, unless there is one of its project, key and scope. -/
def createVariable (project : ProjectId) (request : CreateRequest) : Work Observed := do
  Work.call ⟨.create, project, some request.key, request.body⟩
  match (← Work.entries).create? project request.body with
  | some (e, entries) =>
    Work.setEntries entries
    readAnswer e.attributes
  | none =>
    throw (.service ⟨.create, "(" ++ request.key ++ ") has already been taken", some 400⟩)

/-- Overwrites fields of the variable of a key. -/
def updateVariable (project : ProjectId) (key : String) (request : UpdateRequest) :
    Work Observed := do
  Work.call ⟨.update, project, some key, request.body⟩
  match (← Work.entries).update? project key request.body with
  | some (e, entries) =>
    Work.setEntries entries
    readAnswer e.attributes
  | none => throw (notFound .update)

/-- Removes the variable of a key. Without options there are no query parameters. -/
def removeVariable (project : ProjectId) (key : String) (request : Option RemoveRequest) :
    Work Unit := do
  let query := (request.map RemoveRequest.query).getD []
  Work.call ⟨.delete, project, some key, query⟩
  match (← Work.entries).delete? project key query with
  | some entries => Work.setEntries entries
  | none => throw (notFound .delete)

end CiVariables.Client
