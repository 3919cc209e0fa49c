import CiVariables.Cli.Arguments
import CiVariables.Files

/-!
# Commands

What the user asks for. The program's own options stand before the name of a command, the command's
options after it. Asking for help or for the version ends the run before anything else is looked at
but the form of the arguments.
-/

namespace CiVariables.Cli

/-- The commands by name. -/
inductive CommandName where
  | plan
  | apply
  | destroy
  | validate
  deriving DecidableEq, Inhabited

namespace CommandName

def text : CommandName → String
  | plan => "plan"
  | apply => "apply"
  | destroy => "destroy"
  | validate => "validate"

def all : List CommandName := [plan, apply, destroy, validate]

def ofText? (s : String) : Option CommandName := all.find? fun c => c.text == s

def options : CommandName → List Opt
  | plan => [.config, .out, .noColor, .help]
  | apply => [.config, .autoApprove, .noColor, .help]
  | destroy => [.config, .autoApprove, .noColor, .help]
  | validate => [.config, .noColor, .help]

/-- How many arguments other than options a command takes at most. -/
def arity : CommandName → Nat
  | apply => 1
  | plan | destroy | validate => 0

end CommandName

/-- A command with what it works on. -/
inductive Command where
  /-- Shows what is to be changed, and saves it if a file is named. -/
  | plan (config : String) (out : Option String) (noColor : Bool)
  /-- Applies a saved plan, or one made now. -/
  | apply (planFile : Option String) (config : String) (autoApprove noColor : Bool)
  | destroy (config : String) (autoApprove noColor : Bool)
  | validate (config : String) (noColor : Bool)
  deriving DecidableEq, Inhabited

def planFileName : String := "[plan_file]"

/-- The file that is read if none is named. -/
def defaultConfig : String := "gitlab-provisioner.yaml"

/-- The command that arguments ask for, with its defaults filled in. -/
def CommandName.command (name : CommandName) (a : Arguments) : Command :=
  let config := Path.normalize ((a.value? .config).getD defaultConfig)
  let noColor := a.has .noColor
  match name with
  | .plan => .plan config ((a.value? .out).map Path.normalize) noColor
  | .apply => .apply (a.others.head?.map Path.normalize) config (a.has .autoApprove) noColor
  | .destroy => .destroy config (a.has .autoApprove) noColor
  | .validate => .validate config noColor

/-- The paths among the arguments of a command, with the names of what they are given for. -/
def CommandName.paths (name : CommandName) (a : Arguments) : List (String × List String) :=
  let value (o : Opt) : List (String × List String) :=
    ((a.value? o).map fun path => (path, o.names)).toList
  value .config ++ value .out ++
    match name with
    | .apply => (a.others.take 1).map fun path => (path, [planFileName])
    | .plan | .destroy | .validate => []

/-- What is asked of a command. -/
inductive CommandRequest where
  | help
  | run (command : Command)
  deriving DecidableEq, Inhabited

/-- Reads the arguments of a command: what it is asked to do, or how it is misused. -/
def CommandName.read (name : CommandName) (args : List String) :
    Except Misuse CommandRequest :=
  match Arguments.read name.options true args with
  | .error m => .error m
  | .ok a =>
    if a.has .help then .ok .help
    else if let some (_, names) := (name.paths a).find? fun (path, _) => !Path.isUsable path then
      .error (.unusablePath names)
    else if name.arity < a.others.length then .error (.extraArguments (a.others.drop name.arity))
    else .ok (.run (name.command a))

/-- What is asked of the program. -/
inductive Request where
  /-- No arguments at all. -/
  | nothing
  | help
  | version
  | command (verbosity : Nat) (name : CommandName) (args : List String)
  deriving DecidableEq, Inhabited

namespace Request

/-- The options that stand before a command. -/
def options : List Opt := [.version, .verbose, .help]

/-- The first given option that ends the run. -/
def immediate? (a : Arguments) : Option Opt :=
  (a.options.find? fun g => g.option == .help || g.option == .version).map (·.option)

/-- Reads the arguments of the program up to the name of a command. -/
def read (args : List String) : Except Misuse Request :=
  if args.isEmpty then .ok .nothing
  else
    match Arguments.read options false args with
    | .error m => .error m
    | .ok a =>
      match immediate? a with
      | some .version => .ok .version
      | some _ => .ok .help
      | none =>
        match a.others with
        | [] => .error .missingCommand
        | name :: rest =>
          match CommandName.ofText? name with
          | some c => .ok (.command (a.count .verbose) c rest)
          | none => .error (.unknownCommand name)

end Request

end CiVariables.Cli
