import CiVariables.Failure
import CiVariables.Json.Print
import CiVariables.Json.Read

/-!
# Plan files

A plan is saved as indented JSON with a line feed at the end, and read back with the same checks as
any other data. Declared values are in it in clear text. A text that holds halves of surrogate pairs
cannot be saved.
-/

namespace CiVariables.Plan

open CiVariables

/-- What a plan file may hold. -/
def readLimits : ReadLimits := ⟨200, 4300, false⟩

/-- The text of a plan file. -/
def toText (p : Plan) : Except Failure String :=
  match p.dump.texts.findSome? CiVariables.Text.firstHalves? with
  | some (code, first, last) => .error (.unsavable code first last)
  | none => .ok (p.dump.pretty ++ "\n")

/-- The plan that the text of a plan file holds. -/
def ofText (now : Timestamp) (text : String) : Except Failure Plan :=
  match Json.read? readLimits text with
  | none => .error (.schema "Plan" [⟨[], .jsonInvalid⟩])
  | some j =>
    match Plan.check .text now (.ofJson j) with
    | .valid p => .ok p
    | .invalid issues => .error (.schema "Plan" issues)

end CiVariables.Plan
