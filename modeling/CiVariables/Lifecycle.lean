import CiVariables.Provider

/-!
# Reading and changing one declared variable

The operations of a plan on the variable of a single declaration. Each needs the connection and the
project number. A variable that does not exist is read as nothing, and removing it changes nothing.
-/

namespace CiVariables.Declaration

/-- What is wrong with a declaration before anything is read: it needs a project. -/
def problems (d : Declaration) : List String :=
  match d.parameters.projectId with
  | some _ => []
  | none =>
    ["Variable '" ++ d.name ++ "' has no project: set project_id, project_id_ref or " ++
      "project_id_selector"]

/-- The project that the calls of a declaration are about. -/
def project (d : Declaration) : Work ProjectId :=
  match d.parameters.projectId with
  | some id => pure (.number id)
  | none => throw (.projectUnresolved d.address)

def inProjectText (d : Declaration) : String :=
  match d.parameters.projectId with
  | some id => "project " ++ toString id
  | none => "project None"

/-- The variable as it is, or nothing if it does not exist. -/
def read (provider : Provider) (d : Declaration) : Work (Option Observed) :=
  tryCatch
    (do
      provider.connect
      let project ← d.project
      let o ← Client.getVariable project d.parameters.key (GetRequest.ofParameters d.parameters)
      pure (some o))
    fun failure =>
      if failure.isServiceNotFound then do
        Work.log .debug .handler
          ("Variable " ++ d.parameters.key ++ " not found in " ++ d.inProjectText)
        pure none
      else throw failure

/-- Creates the variable with all that is declared of it. -/
def create (provider : Provider) (d : Declaration) : Work Observed := do
  provider.connect
  let project ← d.project
  Client.createVariable project (CreateRequest.ofParameters d.parameters)

/-- Overwrites the attributes of the variable that are set. -/
def update (provider : Provider) (d : Declaration) : Work Observed := do
  provider.connect
  let project ← d.project
  Client.updateVariable project d.parameters.key (UpdateRequest.ofParameters d.parameters)

/-- Removes the variable; false if it was already gone. -/
def delete (provider : Provider) (d : Declaration) : Work Bool :=
  tryCatch
    (do
      provider.connect
      let project ← d.project
      Client.removeVariable project d.parameters.key (RemoveRequest.ofParameters d.parameters)
      pure true)
    fun failure =>
      if failure.isServiceNotFound then do
        Work.log .info .handler
          ("Variable " ++ d.parameters.key ++ " already removed from " ++ d.inProjectText)
        pure false
      else throw failure

/-- An operation that a sort of resources does not support. -/
def unsupported {α : Type} : Work α := throw .notImplemented

end CiVariables.Declaration
