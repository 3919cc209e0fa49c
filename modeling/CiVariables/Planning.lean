import CiVariables.Lifecycle
import CiVariables.Reconcile

/-!
# Making a plan

Declarations are checked first, without a call: no two may have one address, and each needs its
project. Then each is read in the order of the addresses and compared. A plan to destroy deletes
what is there and is declared.
-/

namespace CiVariables

def engineVersion : String := "0.1.0"

namespace Planning

/-- The first address that an earlier declaration has too. -/
def duplicateAddress? (seen : List String) : List Declaration → Option String
  | [] => none
  | d :: rest =>
    if seen.contains d.address then some d.address
    else duplicateAddress? (d.address :: seen) rest

/-- Declarations in the order of their addresses. -/
def sortByAddress (ds : List Declaration) : List Declaration :=
  ds.mergeSort fun a b => decide (a.address ≤ b.address)

/-- Logs which attributes differ, by name only. -/
def logDifferences (key : String) (ds : List Difference) : Work Unit :=
  if ds.isEmpty then pure ()
  else
    Work.log .debug .client
      ("Variable " ++ key ++ " differs in: " ++
        CiVariables.Text.join ", " ((ds.map (·.field)).mergeSort fun a b => decide (a ≤ b)))

/-- The change for a variable that does not exist. -/
def creation (d : Declaration) : Change :=
  { address := d.address, resourceType := variableType, action := .create
    desired := some d.dumpFields
    planned := some (CreateRequest.ofParameters d.parameters).body }

/-- What a change records of a variable that was read: its attributes that are set. -/
def priorOf (p : Parameters) : Fields := p.dumpFields.dropNull

/-- The change for a variable that was read, whose form as parameters is given. -/
def comparison (d : Declaration) (o : Observed) (observed : Parameters) : Change :=
  let initialized := { d with parameters := d.parameters.lateInitialize (some o) }
  let ds := recordDifferences initialized.parameters.record observed.record
  { address := d.address, resourceType := variableType
    action := if ds.isEmpty then .keep else .update
    desired := some initialized.dumpFields
    prior := some (priorOf observed)
    diff := if ds.isEmpty then none else some (Difference.dumpAll ds) }

/-- The change that removes a variable. The declaration is recorded as it is, with nothing filled
in. -/
def deletion (d : Declaration) (observed : Parameters) : Change :=
  { address := d.address, resourceType := variableType, action := .delete
    desired := some d.dumpFields
    prior := some (priorOf observed) }

/-- The form of an observed variable as parameters. -/
def parametersOf (o : Observed) : Work Parameters :=
  Work.ofChecked "VariableParameters" o.toParameters

/-- The change for one declaration: create, update or keep its variable. -/
def classify (provider : Provider) (d : Declaration) : Work Change := do
  match ← d.read provider with
  | none =>
    Work.log .debug .engine ("Classified " ++ d.address ++ " as create")
    pure (creation d)
  | some o =>
    let observed ← parametersOf o
    let change := comparison d o observed
    logDifferences d.parameters.key
      (recordDifferences (d.parameters.lateInitialize (some o)).record observed.record)
    Work.log .debug .engine ("Classified " ++ d.address ++ " as " ++ change.action.text)
    pure change

/-- The change that removes the variable of a declaration, if it exists. -/
def classifyDestroy (provider : Provider) (d : Declaration) : Work (Option Change) := do
  match ← d.read provider with
  | none =>
    Work.log .debug .engine ("Skipping " ++ d.address ++ ": not present in GitLab")
    pure none
  | some o =>
    let observed ← parametersOf o
    pure (some (deletion d observed))

/-- The changes for declarations, in their order. -/
def changes (provider : Provider) (destroy : Bool) : List Declaration → Work (List Change)
  | [] => pure []
  | d :: rest => do
    let change? ←
      if destroy then classifyDestroy provider d
      else do
        let change ← classify provider d
        pure (some change)
    let more ← changes provider destroy rest
    pure (change?.toList ++ more)

/-- Makes a plan. Without a project for every declaration, or with two declarations of one address,
there is no call to the service. -/
def plan (provider : Provider) (now : Timestamp) (destroy : Bool) (ds : List Declaration) :
    Work Plan := do
  Work.log .info .engine
    ("Planning " ++ toString ds.length ++ " resources (destroy=" ++
      (if destroy then "True" else "False") ++ ")")
  match duplicateAddress? [] ds with
  | some address => throw (.duplicateAddress address)
  | none =>
    let errors := ds.flatMap Declaration.problems
    if errors.isEmpty then do
      let changes ← changes provider destroy (sortByAddress ds)
      pure ⟨⟨provider.host, now, destroy, engineVersion⟩, changes⟩
    else throw (.invalidDeclarations errors)

end Planning

end CiVariables
