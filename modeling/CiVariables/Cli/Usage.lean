import CiVariables.Cli.Command
import CiVariables.Terminal.Wrap

/-!
# Usage

The help screens, and what is said about an argument list that cannot be read. The fault stands in
a frame as wide as the screen, with its controls written out. A value that is missing or not
expected is told without the usage line, all else with it.
-/

namespace CiVariables.Cli

def programName : String := "gitlab-provisioner"

namespace Usage

/-- The words before the options of the program or of a command. -/
def path : Option CommandName → String
  | none => programName
  | some c => programName ++ " " ++ c.text

/-- The usage line of a command, or of the program. -/
def line (c : Option CommandName) : String :=
  "Usage: " ++ path c ++ " [OPTIONS]" ++
    match c with
    | none => " COMMAND [ARGS]..."
    | some .apply => " " ++ planFileName
    | some _ => ""

def summary : CommandName → String
  | .plan => "Show what apply would change. Exits 2 when there are changes."
  | .apply => "Create and update variables so GitLab matches the configuration."
  | .destroy => "Remove every declared variable from GitLab."
  | .validate => "Check the configuration without contacting GitLab."

def optionSummary : Opt → String
  | .help => "Show this message and exit."
  | .version => "Print the version and exit."
  | .verbose => "Log progress to stderr (-v info, -vv debug)."
  | .config => "YAML file declaring projects and variables."
  | .out => "Write the plan to this file for a later apply."
  | .noColor => "Disable colored output."
  | .autoApprove => "Apply without asking for confirmation."

/-- Rows of two columns, the second of them aligned. -/
def columns (rows : List (String × String)) : String :=
  let width := rows.foldl (fun n (a, _) => max n a.length) 0
  String.join (rows.map fun (a, b) =>
    "  " ++ a ++ String.ofList (List.replicate (width - a.length + 2) ' ') ++ b ++ "\n")

/-- The help of a command, or of the program. -/
def help (c : Option CommandName) : String :=
  let purpose :=
    match c with
    | none => "Manage GitLab project CI/CD variables from a YAML file."
    | some c => summary c
  let options :=
    match c with
    | none => Request.options
    | some c => c.options
  line c ++ "\n\n" ++ purpose ++ "\n\nOptions:\n" ++
    columns (options.map fun o => (CiVariables.Text.join ", " o.names, optionSummary o)) ++
    match c with
    | none => "\nCommands:\n" ++ columns (CommandName.all.map fun c => (c.text, summary c))
    | some _ => ""

/-- A text broken into the lines of a screen. -/
def wrapped (screen : Nat) (text : String) : String :=
  String.join ((Terminal.wrap screen text.toList).map fun line => String.ofList (line ++ ['\n']))

/-- A text in a frame with a title, as wide as the screen. -/
def framed (screen : Nat) (title text : String) : String :=
  let bar (n : Nat) : List Char := List.replicate n '─'
  let top :=
    if screen ≤ 4 then '╭' :: bar (screen - 2) ++ ['╮']
    else
      let title := Terminal.cut (screen - 4) (' ' :: title.toList ++ [' '])
      '╭' :: '─' :: title ++ bar (screen - 4 - title.length) ++ ['─', '╮']
  let inner := (Terminal.wrap (screen - 4) text.toList).map fun line =>
    '│' :: ' ' :: Terminal.fit (screen - 4) line ++ [' ', '│']
  let bottom := '╰' :: bar (screen - 2) ++ ['╯']
  if screen = 0 then ""
  else String.join ((top :: inner ++ [bottom]).map fun line => String.ofList (line ++ ['\n']))

/-- The code point of a control in base sixteen, after a backslash. -/
def writtenControl (c : Char) : List Char :=
  let ds := Nat.toDigits 16 c.toNat
  '\\' :: 'x' :: List.replicate (2 - ds.length) '0' ++ ds

/-- A text with its control characters written as escapes. -/
def withControlsWritten (s : String) : String :=
  String.ofList (s.toList.flatMap fun c =>
    if c.toNat < 32 ∨ (127 ≤ c.toNat ∧ c.toNat < 160) then writtenControl c else [c])

end Usage

namespace Misuse

def message : Misuse → String
  | unknownOption name [] => "No such option: " ++ name
  | unknownOption name suggestions =>
    "No such option: " ++ name ++ " (Possible options: " ++
      CiVariables.Text.join ", " suggestions ++ ")"
  | missingValue name => "Option '" ++ name ++ "' requires an argument."
  | unexpectedValue name => "Option '" ++ name ++ "' does not take a value."
  | extraArguments args =>
    "Got unexpected extra argument(s) (" ++ CiVariables.Text.join " " args ++ ")"
  | unusablePath names =>
    "Invalid value for " ++
      CiVariables.Text.join " / " (names.map fun name => "'" ++ name ++ "'") ++
      ": embedded null byte"
  | unknownCommand name => "No such command '" ++ name ++ "'."
  | missingCommand => "Missing command."

/-- The usage line comes before the message. -/
def showsUsage : Misuse → Bool
  | missingValue _ | unexpectedValue _ => false
  | unknownOption .. | extraArguments _ | unusablePath _ | unknownCommand _ | missingCommand => true

/-- What is said about the arguments of the program or of a command. -/
def report (screen : Nat) (c : Option CommandName) (m : Misuse) : String :=
  (if m.showsUsage then
    Usage.wrapped screen (Usage.line c) ++
      Usage.wrapped screen ("Try '" ++ Usage.path c ++ " --help' for help.")
  else "") ++ Usage.framed screen "Error" (Usage.withControlsWritten m.message)

end Misuse

end CiVariables.Cli
