import CiVariables.Remote.Client

/-!
# Connection settings in use

A provider says where the service is and how to log in; its connection is made when it is first
needed. A provider with a ready connection needs no settings.
-/

namespace CiVariables

/-- Where the service is and how to log in. -/
structure Provider where
  host : Option String := none
  token : Option String := none
  verifySsl : Bool := true
  /-- A connection was handed over ready for use. -/
  isReady : Bool := false
  deriving DecidableEq, Inhabited

namespace Provider

def checkToken (source : Schema.Source) : Schema.Value → Schema.Checked String :=
  Schema.record source "TokenAuth" fun entries =>
    Schema.required entries "private_token" Schema.text

/-- A provider from loose settings: a host and an access token, each of which may be missing. -/
def check (host token verifySsl : Schema.Value) : Except Failure Provider :=
  match (Schema.nullable Schema.text token).under (.name "private_token") with
  | .invalid issues => .error (.schema "TokenAuth" issues)
  | .valid token =>
    match (((Schema.nullable Schema.text host).under (.name "host")).map
        fun host verifySsl => (⟨host, token, verifySsl, false⟩ : Provider)).and
        ((Schema.bool verifySsl).under (.name "verify_ssl")) with
    | .invalid issues => .error (.schema "GitLabProvider" issues)
    | .valid p => .ok p

/-- How to connect, or what is missing for it. -/
def connection (p : Provider) : Except Failure Connection :=
  match p.host, p.token with
  | some host, some token => .ok ⟨host, token, p.verifySsl⟩
  | _, _ => .error .noConnection

/-- Connects unless there is a connection. -/
def connect (p : Provider) : Work Unit := do
  if p.isReady || (← get).isConnected then pure ()
  else
    match p.connection with
    | .ok c =>
      Work.note (.connected c)
      modify fun s => { s with isConnected := true }
    | .error failure => throw failure

/-- The text that stands for a secret: a mask, unless there is nothing to hide. -/
def mask (secret : String) : String := if secret = "" then "" else "**********"

def dump (p : Provider) : Json :=
  .obj
    [("host", .ofOption .str p.host),
      ("auth", .ofOption (fun t => .obj [("private_token", .str (mask t))]) p.token),
      ("verify_ssl", .bool p.verifySsl)]

end Provider

end CiVariables
