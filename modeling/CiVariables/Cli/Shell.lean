import CiVariables.Cli.Logging
import CiVariables.Cli.Prompt
import CiVariables.Cli.Usage
import CiVariables.Config.Load
import CiVariables.Report.Failure
import CiVariables.Report.Progress

/-!
# The shell around a command

A command runs against the files, the service, the lines that the user types and the two streams
that it writes to. `Script` is such a run: it may end early, and whatever it did until then stays.
-/

namespace CiVariables.Cli

open CiVariables

/-- The streams that a run writes to. -/
inductive Stream where
  | out
  | err
  deriving DecidableEq, Inhabited

/-- A text that was written. -/
structure Written where
  stream : Stream
  text : String
  deriving DecidableEq, Inhabited

/-- How a run ended. -/
inductive Ending where
  /-- It did what was asked, or there was nothing to do. -/
  | done
  /-- Help was shown because there were no arguments. -/
  | unasked
  /-- There are changes to apply. -/
  | changesFound
  /-- The user said no. -/
  | canceled
  /-- The input ended before the user answered. -/
  | aborted
  /-- A failure was reported. -/
  | failed (failure : Failure)
  | misused (misuse : Misuse)
  /-- A failure went unreported. -/
  | crashed (failure : Failure)
  deriving Inhabited

/-- The exit code that tells how a run ended. -/
def Ending.exitCode : Ending → Nat
  | done => 0
  | changesFound | unasked | misused _ => 2
  | canceled | aborted | failed _ | crashed _ => 1

/-- What a run works on and leaves behind. -/
structure Shell where
  files : Files := {}
  session : Session := default
  /-- The lines that are still to be typed. -/
  input : List String := []
  written : List Written := []
  deriving Inhabited

/-- The conditions of a run. -/
structure Setting where
  env : Environment := []
  now : Timestamp
  /-- Both streams show colors. -/
  showsColor : Bool := false
  logging : Logging := .bare

/-- A run that may end early. -/
abbrev Script (α : Type) := ExceptT Ending (StateM Shell) α

namespace Script

/-- A text with its halves of surrogate pairs written as escapes. -/
def withHalvesWritten (text : String) : String :=
  String.ofList (text.toList.flatMap fun c =>
    if CiVariables.Text.isHalf c then
      '\\' :: 'u' :: Nat.toDigits 16 (CiVariables.Text.codeOf c)
    else [c])

/-- Why a text cannot be written as it is: its first halves of surrogate pairs. -/
def unwritable? (text : String) : Option Failure :=
  (CiVariables.Text.firstHalves? text).map fun (code, first, last) => .unwritable code first last

/-- Writes a text as it is. Halves of surrogate pairs end the run, but are written out where errors
are told. -/
def put (stream : Stream) (text : String) : Script Unit :=
  let add (text : String) : Script Unit :=
    modify fun s => { s with written := s.written ++ [⟨stream, text⟩] }
  match stream with
  | .err => add (withHalvesWritten text)
  | .out =>
    match unwritable? text with
    | some failure => throw (.crashed failure)
    | none => add text

/-- Writes a text. Colors are left out where they are not shown. -/
def write (setting : Setting) (stream : Stream) (text : String) : Script Unit :=
  put stream (if setting.showsColor then text else Terminal.strip text)

/-- Writes a text and ends the line. -/
def line (setting : Setting) (stream : Stream) (text : String) : Script Unit :=
  write setting stream (text ++ "\n")

/-- Writes the log lines that are shown at this level, on the stream for errors. -/
def writeLog (setting : Setting) (log : List LogLine) : Script Unit :=
  (log.filterMap setting.logging.text?).forM fun text => put .err (text ++ "\n")

/-- Tells a failure on the stream for errors. -/
def report (setting : Setting) (color : Bool) (failure : Failure) : Script Unit :=
  (Report.failureLines failure).forM fun text =>
    line setting .err (Report.failureLine color text)

/-- Tells a failure and ends the run. -/
def fail {α : Type} (setting : Setting) (color : Bool) (failure : Failure) : Script α := do
  report setting color failure
  throw (.failed failure)

/-- The value of a step, or the end of the run with its failure reported. -/
def guarded {α : Type} (setting : Setting) (color : Bool) : Except Failure α → Script α
  | .ok a => pure a
  | .error failure => fail setting color failure

/-- The value of a step, or the end of the run with its failure unreported. -/
def unguarded {α : Type} : Except Failure α → Script α
  | .ok a => pure a
  | .error failure => throw (.crashed failure)

/-- Works against the service and returns the outcome and what happened. -/
def work {α : Type} (setting : Setting) (w : Work α) : Script (Except Failure α × List Event) := do
  let s ← get
  let (result, session) := w.run.run s.session
  let events := session.trace.drop s.session.trace.length
  set { s with session := session }
  writeLog setting (events.filterMap Event.log?)
  pure (result, events)

/-- Asks a question and reads the lines that the user types until one is a reply. -/
def ask (question : String) : Script Reply := do
  let s ← get
  let (shown, reply, left) := Prompt.ask question s.input
  set { s with input := left }
  put .out shown
  pure reply

end Script

end CiVariables.Cli
