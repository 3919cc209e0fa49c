import CiVariables.Config.Projects
import CiVariables.Config.Settings

/-!
# Values from the environment

A declaration may take its value from an environment variable, of the process or else of the `.env`
file. It may not give a value of its own as well.
-/

namespace CiVariables

/-- Why the value of a declaration cannot be taken from the environment. -/
inductive SecretError where
  | valueGiven (address : String)
  | unset (address name : String)
  deriving DecidableEq, Inhabited

def SecretError.message : SecretError → String
  | valueGiven address => address ++ ": set either value or value_secret_ref, not both"
  | unset address name =>
    address ++ ": value_secret_ref names unset environment variable '" ++ name ++ "'"

/-- The value of a variable: the process environment comes before the `.env` file. -/
def secretValue? (env : Environment) (dotenv : DotenvValues) (name : String) : Option String :=
  (env.lookup name).or (dotenv.get? name)

namespace Declaration

/-- The declaration with its value taken from where it says; nothing to do without a source. -/
def resolveSecret (d : Declaration) (env : Environment) (dotenv : DotenvValues) :
    Except SecretError Declaration :=
  match d.parameters.secret with
  | none => .ok d
  | some source =>
    match d.parameters.value with
    | some _ => .error (.valueGiven d.address)
    | none =>
      match secretValue? env dotenv source.env with
      | some value => .ok { d with parameters := { d.parameters with value := some value } }
      | none => .error (.unset d.address source.env)

/-- The log line of a value that comes from the environment. It names the variable, not the value.
-/
def secretLog (d : Declaration) : List LogLine :=
  match d.parameters.secret with
  | some source =>
    [⟨.debug, .secrets, "Took value of " ++ d.address ++ " from " ++ source.env⟩]
  | none => []

end Declaration

/-- Takes the values of all declarations. One whose value is not found is left as it is. -/
def resolveSecrets (env : Environment) (dotenv : DotenvValues) : List Declaration → Resolution
  | [] => ⟨[], [], []⟩
  | d :: rest =>
    let more := resolveSecrets env dotenv rest
    match d.resolveSecret env dotenv with
    | .ok d' => ⟨d' :: more.declarations, more.errors, d.secretLog ++ more.log⟩
    | .error e => ⟨d :: more.declarations, e.message :: more.errors, more.log⟩

end CiVariables
