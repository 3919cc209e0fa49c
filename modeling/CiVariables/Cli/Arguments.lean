import CiVariables.Text.Likeness

/-!
# Command-line arguments

An argument list is read against the options that are known at its place. A long option takes its
value after an equals sign or from the next argument; single letters may share one argument, the
last of them with its value. After `--` nothing is an option.
-/

namespace CiVariables.Cli

/-- The options of the program and its commands. -/
inductive Opt where
  | help
  | version
  | verbose
  | config
  | out
  | noColor
  | autoApprove
  deriving DecidableEq, Inhabited

namespace Opt

/-- The long form of an option. -/
def name : Opt → String
  | help => "--help"
  | version => "--version"
  | verbose => "--verbose"
  | config => "--config"
  | out => "--out"
  | noColor => "--no-color"
  | autoApprove => "--auto-approve"

def letter? : Opt → Option Char
  | version => some 'V'
  | verbose => some 'v'
  | config => some 'c'
  | out => some 'o'
  | help | noColor | autoApprove => none

/-- The forms in which an option can be written. -/
def names (o : Opt) : List String :=
  o.name :: (o.letter?.map fun c => String.ofList ['-', c]).toList

/-- The option stands before a value. -/
def takesValue : Opt → Bool
  | config | out => true
  | help | version | verbose | noColor | autoApprove => false

end Opt

/-- What can be wrong with an argument list. -/
inductive Misuse where
  /-- An option that does not exist, with those that may have been meant. -/
  | unknownOption (name : String) (suggestions : List String)
  | missingValue (name : String)
  | unexpectedValue (name : String)
  | extraArguments (arguments : List String)
  /-- A path that no file can have, and the names of what it was given for. -/
  | unusablePath (names : List String)
  | unknownCommand (name : String)
  | missingCommand
  deriving DecidableEq, Inhabited

/-- An option that was given, with its value; the value of a flag is empty. -/
structure Given where
  option : Opt
  value : String := ""
  deriving DecidableEq, Inhabited

/-- What an argument list gives: options in order, and the other arguments. -/
structure Arguments where
  options : List Given := []
  others : List String := []
  deriving DecidableEq, Inhabited

namespace Arguments

/-- Puts options in front of those that were read. -/
def withOptions (given : List Given) (a : Arguments) : Arguments :=
  { a with options := given ++ a.options }

/-- Puts an argument that is no option in front of the others. -/
def withOther (s : String) (a : Arguments) : Arguments := { a with others := s :: a.others }

/-- An option whose value is the next argument, and the name that it was given by. -/
structure Pending where
  option : Opt
  name : String

/-- Reads the letters after a single hyphen. One that takes a value takes what follows it, or else
waits for the next argument. -/
def readLetters (known : List Opt) :
    List Char → Except Misuse (List Given × Option Pending)
  | [] => .ok ([], none)
  | c :: rest =>
    let name := String.ofList ['-', c]
    match known.find? fun o => o.letter? == some c with
    | none => .error (.unknownOption name [])
    | some o =>
      if o.takesValue then
        if rest.isEmpty then .ok ([], some ⟨o, name⟩)
        else .ok ([⟨o, String.ofList rest⟩], none)
      else
        match readLetters known rest with
        | .ok (given, pending) => .ok (⟨o, ""⟩ :: given, pending)
        | .error m => .error m

/-- The part before the first equals sign, and the part after it if there is one. -/
def splitValue (cs : List Char) : List Char × Option (List Char) :=
  match cs.dropWhile (· != '=') with
  | [] => (cs, none)
  | _ :: value => (cs.takeWhile (· != '='), some value)

/-- Reads an option by its whole name, with a value after an equals sign or in the next argument, or
else as letters. -/
def readOption (known : List Opt) (cs : List Char) :
    Except Misuse (List Given × Option Pending) :=
  let (nameChars, value?) := splitValue cs
  let name := String.ofList nameChars
  match known.find? fun o => o.name == name with
  | some o =>
    match o.takesValue, value? with
    | true, some value => .ok ([⟨o, String.ofList value⟩], none)
    | true, none => .ok ([], some ⟨o, name⟩)
    | false, some _ => .error (.unexpectedValue name)
    | false, none => .ok ([⟨o, ""⟩], none)
  | none =>
    match cs with
    | '-' :: '-' :: _ =>
      .error (.unknownOption name (CiVariables.Text.suggestions (known.map Opt.name) name))
    | _ => readLetters known (cs.drop 1)

/-- The argument is an option: a hyphen and more. -/
def isOption (cs : List Char) : Bool := cs.head? == some '-' && 1 < cs.length

/-- Reads arguments, the first of which may be the value of a pending option. Unless options may
stand among other arguments, they end at the first of these. -/
def readFrom (known : List Opt) (mixed : Bool) :
    Option Pending → List String → Except Misuse Arguments
  | none, [] => .ok {}
  | some p, [] => .error (.missingValue p.name)
  | some p, a :: rest => (readFrom known mixed none rest).map (withOptions [⟨p.option, a⟩])
  | none, a :: rest =>
    if a = "--" then .ok ⟨[], rest⟩
    else if isOption a.toList then
      match readOption known a.toList with
      | .error m => .error m
      | .ok (given, pending) => (readFrom known mixed pending rest).map (withOptions given)
    else if mixed then (readFrom known mixed none rest).map (withOther a)
    else .ok ⟨[], a :: rest⟩

/-- Reads all arguments. Options may stand among the others if they are mixed. -/
def read (known : List Opt) (mixed : Bool) (args : List String) : Except Misuse Arguments :=
  readFrom known mixed none args

def has (a : Arguments) (o : Opt) : Bool := a.options.any fun g => g.option == o

def count (a : Arguments) (o : Opt) : Nat := a.options.countP fun g => g.option == o

/-- The last value of an option. -/
def value? (a : Arguments) (o : Opt) : Option String :=
  (a.options.reverse.find? fun g => g.option == o).map (·.value)

end Arguments

end CiVariables.Cli
