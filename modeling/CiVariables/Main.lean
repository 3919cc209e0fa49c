import CiVariables.Cli.Run

/-!
# The program

The outer layer of the command line: it reads the environment, the files that the arguments name,
the entries of the service and what is typed, runs the program on them, and writes what the run
leaves behind. The service is a list of entries in JSON, in the file that `CI_VARIABLES_REMOTE`
names.
-/

namespace CiVariables.Program

open CiVariables

/-- The environment variable that names the file with the entries of the service. -/
def remoteVariable : String := "CI_VARIABLES_REMOTE"

/-- What a file with entries may hold. -/
def remoteLimits : ReadLimits := ⟨1000, 100000, false⟩

/-- The variables of an environment block, which ends each with a zero character. -/
def environmentOf (block : String) : Cli.Setting → Cli.Setting := fun setting =>
  { setting with
    env := (block.splitOn (String.singleton (Char.ofNat 0))).filterMap fun entry =>
      match entry.toList.dropWhile (· != '=') with
      | _ :: value => some (String.ofList (entry.toList.takeWhile (· != '=')), String.ofList value)
      | [] => none }

/-- The paths that an argument list may lead to. -/
def pathsOf (args : List String) : List String :=
  match Cli.Request.read args with
  | .ok (.command _ name rest) =>
    match name.read rest with
    | .ok (.run command) =>
      let settings (config : String) := [config, Path.inside (Path.parent config) ".env"]
      match command with
      | .plan config out _ => settings config ++ out.toList
      | .destroy config _ _ | .validate config _ => settings config
      | .apply planFile config _ _ => settings config ++ planFile.toList
    | _ => []
  | _ => []

/-- The directories that a path leads through, and the path itself. -/
def stepsOf (path : String) : List String :=
  let ps := Path.parts path
  (List.range ps.length).map fun n => Path.ofParts (Path.root path) (ps.take (n + 1))

/-- The text of a file, empty if it cannot be read. -/
def textOf (path : String) : IO String := do
  try IO.FS.readFile path
  catch _ => pure ""

/-- Adds what is at a path to the files, among which is all that is on the way to it. -/
def addPath (files : Files) (path : String) : IO Files := do
  match files.place path with
  | .error _ => pure files
  | .ok p =>
    try
      let bytes ← IO.FS.readBinFile path
      pure { files with contents := files.contents ++ [(p, bytes.toList)] }
    catch
    | .inappropriateType .. =>
      pure { files with directories := files.directories ++ [p] }
    | _ => pure files

/-- The files and directories that some paths lead to. -/
def readFiles (paths : List String) : IO Files := (paths.flatMap stepsOf).foldlM addPath {}

/-- A decimal number in front of a text, and its hundredths. -/
def hundredths (s : String) : Nat :=
  let cs := s.toList.takeWhile fun c => c.isDigit || c == '.'
  (cs.filter Char.isDigit).foldl (fun n c => n * 10 + (c.toNat - 48)) 0

/-- The time, from when the machine was started and for how long it has been running. -/
def now : IO Timestamp := do
  let started := ((← textOf "/proc/stat").splitOn "btime ").getD 1 ""
  let boot := (String.ofList (started.toList.takeWhile Char.isDigit)).toNat?.getD 0
  let running := hundredths (← textOf "/proc/uptime")
  pure ((Timestamp.ofSeconds? (boot + running / 100 : Nat) (running % 100 * 10000)).getD default)

/-- The entries of the service, read from a file. -/
def readRemote (path : String) : IO Remote := do
  match Json.read? remoteLimits (← textOf path) with
  | some (.arr items) => pure { entries := items.filterMap Json.fields? }
  | _ => pure {}

/-- What a run wrote to a stream. -/
def written (shell : Cli.Shell) (stream : Cli.Stream) : String :=
  String.join ((shell.written.filter fun w => w.stream == stream).map (·.text))

/-- Runs the program, with one more line of input whenever it asks for one. A run has no effect on
the world, so it is simply done again. `seen` is how much of the output has been shown. -/
partial def converse (setting : Cli.Setting) (args : List String) (shell : Cli.Shell)
    (input : List String) (seen : Nat) : IO (Cli.Ending × Cli.Shell) := do
  let (ending, after) := Cli.run setting args { shell with input }
  let text := written after .out
  let stdout ← IO.getStdout
  stdout.putStr (String.ofList (text.toList.drop seen))
  stdout.flush
  match ending with
  | .aborted =>
    let line ← (← IO.getStdin).getLine
    if line.isEmpty then pure (ending, after)
    else
      let typed := (Cli.Prompt.lines line).headD ""
      converse setting args shell (input ++ [typed]) (text.length + typed.length + 1)
  | _ => pure (ending, after)

def pathOf (p : Place) : String := Path.ofParts (if p.isAbsolute then "/" else "") p.parts

/-- Makes the directories and writes the files that a run has left. -/
def writeFiles (before after : Files) : IO Unit := do
  after.directories.forM fun p => do
    if !before.isDirectory p then IO.FS.createDirAll (pathOf p)
  after.contents.forM fun (p, bytes) => do
    if before.look p != .file bytes then IO.FS.writeBinFile (pathOf p) ⟨bytes.toArray⟩

end CiVariables.Program

open CiVariables Program in
def main (args : List String) : IO UInt32 := do
  let setting := environmentOf (← textOf "/proc/self/environ") { now := ← now }
  let remotePath := setting.env.lookup remoteVariable
  let remote ←
    match remotePath with
    | some path => readRemote path
    | none => pure {}
  let files ← readFiles (pathsOf args)
  let shell : Cli.Shell := { files, session := { remote } }
  let (ending, after) ← converse setting args shell [] 0
  writeFiles files after.files
  match remotePath with
  | some path =>
    if after.session.remote.entries != remote.entries then
      IO.FS.writeFile path ((Json.arr (after.session.remote.entries.map Json.obj)).pretty ++ "\n")
  | none => pure ()
  let stderr ← IO.getStderr
  stderr.putStr (written after .err)
  match ending with
  | .crashed failure => stderr.putStrLn failure.message
  | _ => pure ()
  pure ending.exitCode.toUInt32
