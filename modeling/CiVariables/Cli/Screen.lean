import CiVariables.Config.Settings
import CiVariables.Text.Digit

/-!
# The screen

How wide the screen is, as far as the environment tells.
-/

namespace CiVariables.Cli

def widthVariable : String := "COLUMNS"

def defaultWidth : Nat := 80

/-- How many cells wide the screen is. A width that is no number is not known. -/
def screenWidth (env : Environment) : Nat :=
  match env.lookup widthVariable with
  | none => defaultWidth
  | some text =>
    let ds := text.toList.filterMap CiVariables.Text.digitValue?
    if text.isEmpty || ds.length != text.length then defaultWidth
    else ds.foldl (fun n d => 10 * n + d) 0

end CiVariables.Cli
