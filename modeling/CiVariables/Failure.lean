import CiVariables.Plan.Basic
import CiVariables.Terminal.Markup
import CiVariables.Text.Utf8

/-!
# Failures

Everything that can go wrong, by its cause. `Failure.message` is the one place where a cause is put
into words.
-/

namespace CiVariables

open Schema (Issue)

/-- The sort of an error that the service answers with. -/
inductive ServiceErrorKind where
  | get
  | create
  | update
  | delete
  | authentication
  /-- Any other sort, by its name. -/
  | other (name : String)
  deriving DecidableEq, Inhabited

/-- An error that the service answers with. -/
structure ServiceError where
  kind : ServiceErrorKind
  text : String
  code : Option Int := none
  deriving DecidableEq, Inhabited

/-- The error in words: its code comes first if it has one. -/
def ServiceError.message (e : ServiceError) : String :=
  match e.code with
  | some code => toString code ++ ": " ++ e.text
  | none => e.text

/-- What can be wrong with a declaration file. -/
inductive ConfigError where
  | unreadable (path : String)
  | notMapping (path : String)
  | schema (issues : List Issue)
  | invalidBoolean (name text : String)
  /-- Names, references, secrets or identities that do not hold together. -/
  | unresolved (errors : List String)
  | missingHost
  | missingToken
  /-- Raised elsewhere. -/
  | other (text : String)
  deriving DecidableEq, Inhabited

/-- How many issues there are, and in what. -/
def issueSummary (model : String) (issues : List Issue) : String :=
  toString issues.length ++ " validation error" ++ (if issues.length = 1 then "" else "s") ++
    " for " ++ model

namespace ConfigError

/-- What is told of an error in a declaration file. -/
def message : ConfigError → String
  | unreadable path => "Failed to read " ++ path
  | notMapping path => path ++ ": expected a mapping at the top level"
  | schema issues => issueSummary "Config" issues
  | invalidBoolean name text =>
    "Invalid boolean for " ++ name ++ ": " ++ CiVariables.Text.quoted text
  | unresolved errors => CiVariables.Text.join "\n" errors
  | missingHost => "provider.host is required (set in YAML or GITLAB_HOST env var)"
  | missingToken => "provider.token is required (set GITLAB_TOKEN env var)"
  | other text => text

end ConfigError

/-- Something that went wrong. -/
inductive Failure where
  /-- Data that does not fit its schema. -/
  | schema (model : String) (issues : List Issue)
  | config (error : ConfigError)
  /-- The connection settings are not a mapping. -/
  | settingsNotMapping (kind : String)
  | service (error : ServiceError)
  /-- Two declarations with one address. -/
  | duplicateAddress (address : String)
  /-- Declarations that cannot be planned. -/
  | invalidDeclarations (errors : List String)
  /-- A change failed after others had been applied. -/
  | apply (applied : List Change) (address reason : String) (cause : Option Failure)
  | canceled (text : String)
  /-- Neither credentials nor a ready connection. -/
  | noConnection
  | projectUnresolved (address : String)
  | missingDesired (action : Action) (address : String)
  | notExecutable (action : Action)
  | notImplemented
  /-- An object without a member that is needed. -/
  | missingMember (name : String)
  /-- A value that should be an object, by the name of its kind. -/
  | notAnObject (kind : String)
  | undecodable (error : DecodeError)
  | noSuchFile (path : String)
  | isDirectory (path : String)
  /-- A path that goes through a file. -/
  | notDirectory (path : String)
  /-- A directory that should be made where there is a file. -/
  | fileExists (path : String)
  | nameTooLong (path : String)
  /-- A name among settings that stands for the settings themselves. -/
  | reservedName (name : String)
  /-- Markup that cannot be shown. -/
  | unshowable (fault : Terminal.Markup.Fault)
  /-- A text with halves of surrogate pairs, the first of which is `code` and which stand together
  from `first` to `last`. -/
  | unwritable (code first last : Nat)
  /-- Such a text among data that should be saved. -/
  | unsavable (code first last : Nat)
  /-- Raised elsewhere, known by the name of its sort. -/
  | other (name text : String)
  deriving Inhabited

/-- What is wrong with a text that holds halves of surrogate pairs. -/
def halvesText (code first last : Nat) : String :=
  "'utf-8' codec can't encode " ++
    (if first = last then
      "character '\\u" ++ String.ofList (Nat.toDigits 16 code) ++ "' in position " ++ toString first
    else "characters in position " ++ toString first ++ "-" ++ toString last) ++
    ": surrogates not allowed"

namespace Failure

/-- The action in the message of a failed run. -/
def actionLabel : Action → String
  | .create => "CREATE"
  | .update => "UPDATE"
  | .delete => "DELETE"
  | .keep => "NOOP"

/-- What is told of a failure. -/
def message : Failure → String
  | schema model issues => issueSummary model issues
  | config error => error.message
  | settingsNotMapping kind => "'" ++ kind ++ "' object has no attribute 'get'"
  | service error => error.message
  | duplicateAddress address => "Duplicate resource address: " ++ address
  | invalidDeclarations errors =>
    toString errors.length ++ " variable(s) failed validation:\n" ++
      CiVariables.Text.join "\n" (errors.map ("  - " ++ ·))
  | apply _ address reason _ => "Apply failed on " ++ address ++ ": " ++ reason
  | canceled text => text
  | noConnection =>
    "Either provide host+auth, or use GitLabProvider.from_client() to inject a client"
  | projectUnresolved address => address ++ ": project_id is not resolved"
  | missingDesired action address => "Missing desired config for " ++ action.text ++ ": " ++ address
  | notExecutable action => "Unknown action: Action." ++ actionLabel action
  | notImplemented => ""
  | missingMember name => CiVariables.Text.quoted name
  | notAnObject kind =>
    if kind = "str" then "string indices must be integers, not 'str'"
    else if kind = "list" then "list indices must be integers or slices, not str"
    else "'" ++ kind ++ "' object is not subscriptable"
  | undecodable error => error.message
  | noSuchFile path => "[Errno 2] No such file or directory: " ++ CiVariables.Text.quoted path
  | isDirectory path => "[Errno 21] Is a directory: " ++ CiVariables.Text.quoted path
  | notDirectory path => "[Errno 20] Not a directory: " ++ CiVariables.Text.quoted path
  | fileExists path => "[Errno 17] File exists: " ++ CiVariables.Text.quoted path
  | nameTooLong path => "[Errno 36] File name too long: " ++ CiVariables.Text.quoted path
  | reservedName name =>
    "BaseSettings.__init__() got multiple values for argument " ++ CiVariables.Text.quoted name
  | unshowable fault => fault.message
  | unwritable code first last => halvesText code first last
  | unsavable code first last =>
    "Error serializing to JSON: UnicodeEncodeError: " ++ halvesText code first last
  | other _ text => text

/-- The words by which the service says that a variable does not exist. -/
def notFoundText : String := "404 Variable Not Found"

/-- The failure says that a variable does not exist. -/
def isNotFound (f : Failure) : Bool := CiVariables.Text.contains f.message notFoundText

/-- The failure is an answer of the service that a variable does not exist. -/
def isServiceNotFound : Failure → Bool
  | service error => (service error).isNotFound
  | _ => false

end Failure

end CiVariables
