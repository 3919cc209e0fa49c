import CiVariables.Cli.Screen
import CiVariables.Cli.Shell
import CiVariables.Plan.File

/-!
# Running commands

The commands, and the program that picks one. `validate` only loads the declaration file, `plan`
also compares it with the service. `apply` and `destroy` show their plan and ask before anything is
changed, unless they are told not to ask. Failures are reported and end the run; those of showing or
saving a plan end it unreported.
-/

namespace CiVariables.Cli

open CiVariables

/-- Colors are wanted: neither an option nor the environment disables them. -/
def wantsColor (env : Environment) (noColor : Bool) : Bool :=
  !noColor && ((env.lookup "NO_COLOR").filter (· != "")).isNone

def versionLine : String := programName ++ " " ++ engineVersion

namespace Command

/-- Reads and settles the declaration file. Its log lines are written before a failure is reported.
-/
def load (setting : Setting) (color : Bool) (path : String) : Script Config := do
  let (result, log) := Config.loadFile ⟨(← get).files, setting.env⟩ path
  Script.writeLog setting log
  Script.guarded setting color result

/-- Makes a plan against the service. A failure is reported. -/
def makePlan (setting : Setting) (color : Bool) (config : Config) (destroy : Bool) :
    Script Plan := do
  let (result, _) ← Script.work setting (config.plan setting.now destroy)
  Script.guarded setting color result

/-- Reads a saved plan. The file has to be UTF-8 text; line ends of other systems are read as line
feeds. -/
def readPlan (now : Timestamp) (files : Files) (path : String) : Except Failure Plan := do
  let bytes ← files.read path
  match Utf8.decode bytes with
  | .ok cs => Plan.ofText now (String.ofList (Utf8.unifyNewlines cs))
  | .error e => .error (.undecodable e)

/-- Shows a plan and its counts. -/
def showPlan (setting : Setting) (color : Bool) (plan : Plan) : Script Unit := do
  let shown ← Script.unguarded (Report.plan color plan)
  Script.line setting .out shown
  Script.line setting .out ""
  Script.line setting .out (Report.planSummary color plan.summary)

/-- Saves a plan, in a directory that is made if it is missing. What was made stays if a later step
fails, and no failure is reported. -/
def savePlan (setting : Setting) (plan : Plan) (path : String) : Script Unit := do
  let s ← get
  let files ← Script.unguarded (s.files.makeParents path)
  set { s with files := files }
  let text ← Script.unguarded plan.toText
  let files ← Script.unguarded (files.write path text.toUTF8.toList)
  set { s with files := files }
  Script.line setting .out
    ("\nPlan saved to " ++ path ++ " (contains variable values in clear text)")

/-- Writes lines as they are. -/
def putLines (lines : List String) : Script Unit :=
  lines.forM fun text => Script.put .out (text ++ "\n")

/-- Applies a plan and tells of its progress. A failure is told before the progress is shown for
the last time, which may end the run unreported. -/
def applyPlan (setting : Setting) (color : Bool) (config : Config) (plan : Plan) :
    Script Unit := do
  let screen := screenWidth setting.env
  let (result, events) ←
    Script.work setting (config.apply (some (Report.Progress.follow screen)) plan)
  events.forM fun e => putLines ((Report.Progress.noteLines screen e).toOption.getD [])
  match result with
  | .ok _ => pure ()
  | .error failure => Script.report setting color failure
  let progress := events.foldl Report.Progress.after { total := plan.actionable.length }
  match progress.lines screen with
  | .ok lines => putLines lines
  | .error fault => throw (.crashed (.unshowable fault))
  match result with
  | .error failure => throw (.failed failure)
  | .ok applied => do
    Script.line setting .out ""
    Script.line setting .out (Report.applySummary color (Tally.ofChanges applied))

/-- Asks whether to go on, unless that is settled, and ends the run if not. -/
def approve (setting : Setting) (autoApprove : Bool) (question : String) : Script Unit := do
  if autoApprove then pure ()
  else
    match ← Script.ask question with
    | .yes => pure ()
    | .no =>
      Script.line setting .err "Apply canceled."
      throw .canceled
    | .ended =>
      Script.line setting .err "Aborted."
      throw .aborted

/-- Shows a plan, asks, and applies it; a plan without changes ends the run. -/
def review (setting : Setting) (color : Bool) (config : Config) (autoApprove : Bool)
    (question nothing : String) (plan : Plan) : Script Unit := do
  if Report.hasActionableChanges plan then do
    showPlan setting color plan
    Script.line setting .out ""
    approve setting autoApprove question
    applyPlan setting color config plan
  else Script.line setting .out nothing

/-- What `validate` says of an accepted file. -/
def validText (n : Nat) : String :=
  "Configuration is valid (" ++ toString n ++ (if n = 1 then " variable" else " variables") ++ ")."

/-- Runs a command; the ending of a run that does not end early. -/
def run (setting : Setting) : Command → Script Ending
  | .plan path out noColor => do
    let color := wantsColor setting.env noColor
    let config ← load setting color path
    let plan ← makePlan setting color config false
    showPlan setting color plan
    match out with
    | some file => savePlan setting plan file
    | none => pure ()
    pure (if Report.hasActionableChanges plan then .changesFound else .done)
  | .apply planFile path autoApprove noColor => do
    let color := wantsColor setting.env noColor
    let config ← load setting color path
    let plan ←
      match planFile with
      | some file => Script.guarded setting color (readPlan setting.now (← get).files file)
      | none => makePlan setting color config false
    review setting color config autoApprove "Do you want to apply these changes?"
      Report.noChanges plan
    pure .done
  | .destroy path autoApprove noColor => do
    let color := wantsColor setting.env noColor
    let config ← load setting color path
    let plan ← makePlan setting color config true
    review setting color config autoApprove
      "Do you really want to destroy all declared variables?" "No variables to destroy." plan
    pure .done
  | .validate path noColor => do
    let color := wantsColor setting.env noColor
    let config ← load setting color path
    Script.line setting .out
      (Terminal.styleIf color .green false (validText config.declarations.length))
    pure .done

end Command

/-- Ends the run with the usage error on the stream for errors. -/
def refuse {α : Type} (setting : Setting) (command : Option CommandName) (m : Misuse) :
    Script α := do
  Script.put .err (m.report (screenWidth setting.env) command)
  throw (.misused m)

/-- Reads the arguments of a command and runs it, or shows its help. -/
def runNamed (setting : Setting) (name : CommandName) (args : List String) : Script Ending := do
  match name.read args with
  | .error m => refuse setting (some name) m
  | .ok .help =>
    Script.write setting .out (Usage.help (some name))
    pure .done
  | .ok (.run command) => command.run setting

/-- What the program does with its arguments. Logging is set up before the arguments of the command
are read. -/
def script (setting : Setting) (args : List String) : Script Ending := do
  match Request.read args with
  | .error m => refuse setting none m
  | .ok .nothing =>
    Script.write setting .out (Usage.help none)
    pure .unasked
  | .ok .help =>
    Script.write setting .out (Usage.help none)
    pure .done
  | .ok .version =>
    Script.line setting .out versionLine
    pure .done
  | .ok (.command verbosity name args) =>
    let (logging, warning) := Logging.choose setting.env verbosity
    match warning with
    | some text => Script.line setting .err text
    | none => pure ()
    runNamed { setting with logging } name args

/-- Runs the program: how it ended, and what it left behind. -/
def run (setting : Setting) (args : List String) (shell : Shell) : Ending × Shell :=
  match (script setting args).run.run shell with
  | (.ok ending, shell) => (ending, shell)
  | (.error ending, shell) => (ending, shell)

end CiVariables.Cli
