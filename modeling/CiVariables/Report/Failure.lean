import CiVariables.Report.Change

/-!
# Reporting failures

The lines in which a failure is told to the user. A run that failed after some changes also says
what was applied; counts of zero are left out there.
-/

namespace CiVariables.Report

open CiVariables

/-- The phrase counts nothing. -/
def countsNothing (phrase : String) : Bool := "0 ".toList.isPrefixOf phrase.toList

/-- The line about what was applied before a failure; none if nothing was. -/
def partialResult (applied : List Change) : List String :=
  let done := (countPhrases (Tally.ofChanges applied) true false).filter (!countsNothing ·)
  if done.isEmpty then []
  else ["  Partial result: " ++ CiVariables.Text.join ", " done ++ "."]

/-- The lines that tell a failure; that of a run with its partial result. -/
def failureLines : Failure → List String
  | .config error => ["Configuration error: " ++ error.message]
  | .invalidDeclarations errors => "Validation failed:" :: errors.map ("  - " ++ ·)
  | .apply applied address reason cause =>
    (Failure.apply applied address reason cause).message :: partialResult applied
  | .canceled _ => ["Apply canceled."]
  | .service error =>
    match error.kind with
    | .authentication => ["GitLab authentication failed: " ++ error.message]
    | _ => ["GitLab API error: " ++ error.message]
  | failure => ["Error: " ++ failure.message]

def failureCode : Nat := 1

/-- A line that tells of a failure, with all attributes ended after it. -/
def failureLine (color : Bool) (line : String) : String :=
  Terminal.style (if color then some .red else none) false line

def failureText (color : Bool) (failure : Failure) : String :=
  String.join ((failureLines failure).map fun line => failureLine color line ++ "\n")

end CiVariables.Report
