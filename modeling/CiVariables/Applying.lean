import CiVariables.Planning

/-!
# Carrying out a plan

The actionable changes are carried out in order. The first that fails ends the run; its failure
says what had been applied. A removal that finds nothing counts neither as applied nor as failed.
-/

namespace CiVariables.Applying

open CiVariables

/-- Carries out one change; false if nothing happened. The recorded declaration is read again. -/
def run (provider : Provider) (change : Change) : Work Bool := do
  match change.desired with
  | none => throw (.missingDesired change.action change.address)
  | some desired =>
    let d ← Work.ofChecked "VariableResource" (Declaration.check .data (.ofJson (.obj desired)))
    match change.action with
    | .create =>
      let _ ← d.create provider
      pure true
    | .update =>
      let _ ← d.update provider
      pure true
    | .delete => d.delete provider
    | .keep => throw (.notExecutable change.action)

/-- Somebody who follows the progress of a run and may refuse an event. -/
abbrev Follower := Event → Except Failure Unit

/-- A follower that refuses nothing. -/
def Follower.accepting : Follower := fun _ => .ok ()

/-- Notes progress if somebody follows it. A refusal ends the run. -/
def report (follower : Option Follower) (e : Event) : Work Unit :=
  match follower with
  | none => pure ()
  | some accept =>
    match accept e with
    | .ok () => Work.note e
    | .error failure => throw failure

/-- Carries out changes in order, after others have been applied. -/
def applyChanges (provider : Provider) (follower : Option Follower) (applied : List Change) :
    List Change → Work (List Change)
  | [] => pure applied
  | change :: rest => do
    Work.log .debug .engine ("Applying " ++ change.address ++ ": " ++ change.action.text)
    report follower (.started change.address change.action)
    let done ← tryCatch (run provider change) fun failure =>
      throw (.apply applied change.address failure.message (some failure))
    if done then do
      report follower (.finished change.address change.action)
      applyChanges provider follower (applied ++ [change]) rest
    else applyChanges provider follower applied rest

/-- Carries out the actionable changes of a plan, and returns those that were applied. -/
def apply (provider : Provider) (follower : Option Follower) (plan : Plan) :
    Work (List Change) := do
  let actionable := plan.actionable
  Work.log .info .engine ("Applying " ++ toString actionable.length ++ " operations")
  applyChanges provider follower [] actionable

end CiVariables.Applying
