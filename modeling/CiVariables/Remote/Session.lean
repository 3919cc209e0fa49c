import CiVariables.Failure
import CiVariables.Remote.Store

/-!
# Working against the service

`Work` is a computation that may fail and whose effects stay even if it does: what it did to the
store, and the trace of its calls, progress notes and log lines in the order in which they
happened. Every call is recorded before it can fail. A fault makes matching calls fail before they
touch the store.
-/

namespace CiVariables

/-- The operations of the service. -/
inductive Method where
  | list
  | get
  | create
  | update
  | delete
  deriving DecidableEq, Inhabited

namespace Method

def text : Method → String
  | list => "list"
  | get => "get"
  | create => "create"
  | update => "update"
  | delete => "delete"

def ofText? (s : String) : Option Method :=
  [list, get, create, update, delete].find? fun m => m.text == s

/-- A call that may change the store. -/
def isWrite : Method → Bool
  | create | update | delete => true
  | list | get => false

end Method

/-- One call of the service. -/
structure Call where
  method : Method
  project : ProjectId
  /-- The key that is addressed; listing addresses none. -/
  key : Option String
  /-- The query parameters or the body. -/
  payload : Fields

def Call.keyJson (c : Call) : Json := .ofOption .str c.key

/-- Makes matching calls fail. -/
structure Fault where
  method : Method
  key : Option Json := none
  project : Option Json := none
  /-- How often the fault strikes yet; without a number it always does. -/
  remaining : Option Int := none
  failure : Failure
  deriving Inhabited

namespace Fault

/-- The fault strikes this call. -/
def concerns (f : Fault) (c : Call) : Bool :=
  f.method == c.method &&
    (match f.key with
      | none => true
      | some key => key.sameValue c.keyJson) &&
    (match f.project with
      | none => true
      | some project => project.sameValue c.project.toJson)

/-- The failure of the first fault that is about a call and not used up, and the faults after it
has struck. -/
def strike : List Fault → Call → Option Failure × List Fault
  | [], _ => (none, [])
  | f :: rest, c =>
    let skip := ((strike rest c).1, f :: (strike rest c).2)
    if f.concerns c then
      match f.remaining with
      | none => (some f.failure, f :: rest)
      | some n =>
        if n = 0 then skip
        else (some f.failure, { f with remaining := some (n - 1) } :: rest)
    else skip

end Fault

/-- The service: its entries, and the faults that calls run into. -/
structure Remote where
  entries : Store := []
  faults : List Fault := []
  deriving Inhabited

/-- How to reach the service. -/
structure Connection where
  host : String
  token : String
  verifySsl : Bool
  deriving DecidableEq, Inhabited

/-- How much a log line matters. -/
inductive LogLevel where
  | debug
  | info
  | warning
  | error
  | critical
  deriving DecidableEq, Inhabited

namespace LogLevel

def text : LogLevel → String
  | debug => "DEBUG"
  | info => "INFO"
  | warning => "WARNING"
  | error => "ERROR"
  | critical => "CRITICAL"

/-- The order of levels. -/
def rank : LogLevel → Nat
  | debug => 10
  | info => 20
  | warning => 30
  | error => 40
  | critical => 50

end LogLevel

/-- The parts of the program that write log lines. -/
inductive LogSource where
  | client
  | handler
  | engine
  | loader
  | references
  | secrets
  | dotenv
  deriving DecidableEq, Inhabited

namespace LogSource

def text : LogSource → String
  | client => "gitlab_provisioner.clients.variables"
  | handler => "gitlab_provisioner.engine.variable_handler"
  | engine => "gitlab_provisioner.engine.engine"
  | loader => "gitlab_provisioner.config.loader"
  | references => "gitlab_provisioner.config.references"
  | secrets => "gitlab_provisioner.config.secrets"
  | dotenv => "dotenv.main"

end LogSource

/-- A log line. -/
structure LogLine where
  level : LogLevel
  source : LogSource
  text : String
  deriving DecidableEq, Inhabited

/-- Something that happened. -/
inductive Event where
  | called (call : Call)
  | connected (connection : Connection)
  /-- A change is about to be carried out. -/
  | started (address : String) (action : Action)
  /-- A change has been carried out. -/
  | finished (address : String) (action : Action)
  | logged (line : LogLine)

namespace Event

def call? : Event → Option Call
  | called c => some c
  | _ => none

def connection? : Event → Option Connection
  | connected c => some c
  | _ => none

def log? : Event → Option LogLine
  | logged line => some line
  | _ => none

end Event

/-- The service, and what happened so far. -/
structure Session where
  remote : Remote
  trace : List Event := []
  /-- The engine at work has its connection. -/
  isConnected : Bool := false
  deriving Inhabited

/-- The calls made so far. -/
def Session.calls (s : Session) : List Call := s.trace.filterMap Event.call?

/-- A computation that may fail and whose effects on the session stay. -/
abbrev Work (α : Type) := ExceptT Failure (StateM Session) α

namespace Work

/-- Adds an event to the trace. -/
def note (e : Event) : Work Unit := modify fun s => { s with trace := s.trace ++ [e] }

/-- Writes a log line. -/
def log (level : LogLevel) (source : LogSource) (text : String) : Work Unit :=
  note (.logged ⟨level, source, text⟩)

/-- The value of a check, or its issues as a failure. -/
def ofChecked {α : Type} (model : String) : Schema.Checked α → Work α
  | .valid a => pure a
  | .invalid issues => throw (.schema model issues)

/-- Records a call, which fails if a fault strikes. -/
def call (c : Call) : Work Unit := do
  note (.called c)
  let s ← get
  let (failure?, faults) := Fault.strike s.remote.faults c
  set { s with remote := { s.remote with faults := faults } }
  match failure? with
  | some failure => throw failure
  | none => pure ()

/-- The entries of the store as they are now. -/
def entries : Work Store := do return (← get).remote.entries

/-- Replaces the entries of the store. -/
def setEntries (entries : Store) : Work Unit :=
  modify fun s => { s with remote := { s.remote with entries := entries } }

end Work

end CiVariables
