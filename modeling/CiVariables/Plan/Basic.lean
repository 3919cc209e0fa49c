import CiVariables.Timestamp
import CiVariables.Variable.Basic

/-!
# Plans

A plan lists the changes that bring the service to what is declared, in the order in which they are
carried out. A change records everything that carrying it out needs, so a plan can be saved and
applied later.
-/

namespace CiVariables

open Schema (Checked Source Value Entries)

/-- What is done to a variable. -/
inductive Action where
  | create
  | update
  | delete
  /-- The variable is as declared. -/
  | keep
  deriving DecidableEq, Inhabited, Repr

namespace Action

def text : Action → String
  | create => "create"
  | update => "update"
  | delete => "delete"
  | keep => "no-op"

def ofText? (s : String) : Option Action :=
  if s = "create" then some create
  else if s = "update" then some update
  else if s = "delete" then some delete
  else if s = "no-op" then some keep
  else none

def expected : String := "'create', 'update', 'delete' or 'no-op'"

def check : Value → Checked Action := Schema.oneOf expected ofText?

/-- An action that changes something. -/
def isActionable (a : Action) : Bool := a ≠ keep

end Action

/-- One planned operation on a variable. -/
structure Change where
  address : String
  resourceType : String
  action : Action
  /-- The declaration that is applied, as it was recorded. -/
  desired : Option Fields := none
  /-- The variable as it was read. -/
  prior : Option Fields := none
  /-- The body of the create request. -/
  planned : Option Fields := none
  /-- The differing fields of an update. -/
  diff : Option Fields := none
  deriving Inhabited

/-- Where and when a plan was made. -/
structure PlanMetadata where
  host : Option String := none
  createdAt : Timestamp
  destroy : Bool
  engineVersion : String
  deriving Inhabited

/-- Changes in the order in which they are applied. -/
structure Plan where
  metadata : PlanMetadata
  changes : List Change
  deriving Inhabited

/-- How many changes there are of each action. -/
structure Tally where
  create : Int
  update : Int
  delete : Int
  keep : Int
  deriving DecidableEq, Inhabited

namespace Tally

/-- The count of one action. -/
def count (t : Tally) : Action → Int
  | .create => t.create
  | .update => t.update
  | .delete => t.delete
  | .keep => t.keep

/-- How many changes have an action. -/
def countOf (a : Action) (changes : List Change) : Int :=
  (changes.countP fun c => decide (c.action = a) : Nat)

def ofChanges (changes : List Change) : Tally :=
  ⟨countOf .create changes, countOf .update changes, countOf .delete changes,
    countOf .keep changes⟩

def dump (t : Tally) : Json :=
  .obj [(Action.create.text, .int t.create), (Action.update.text, .int t.update),
    (Action.delete.text, .int t.delete), (Action.keep.text, .int t.keep)]

end Tally

/-- A mapping whose keys are all texts, kept as it is. -/
def anyObject (source : Source) : Value → Checked Fields :=
  fun v => (Schema.dict source (fun v => .valid v.toJson) v)

namespace Change

def isActionable (c : Change) : Bool := c.action.isActionable

/-- Checks a change of a saved plan. Its objects may hold anything. -/
def check (source : Source) : Value → Checked Change :=
  Schema.record source "ResourceChange" fun entries =>
    let may (name : String) : Checked (Option Fields) :=
      Schema.optional entries name none (Schema.nullable (anyObject source))
    (((((((Schema.required entries "address" Schema.text).map Change.mk).and
      (Schema.required entries "resource_type" Schema.text)).and
      (Schema.required entries "action" Action.check)).and
      (may "desired")).and
      (may "prior")).and
      (may "planned")).and
      (may "diff")

/-- The members of a change in a plan file. -/
def dumpFields (c : Change) : Fields :=
  [("address", .str c.address),
    ("resource_type", .str c.resourceType),
    ("action", .str c.action.text),
    ("desired", .ofOption .obj c.desired),
    ("prior", .ofOption .obj c.prior),
    ("planned", .ofOption .obj c.planned),
    ("diff", .ofOption .obj c.diff)]

def dump (c : Change) : Json := .obj c.dumpFields

/-- The record of a run: the changes that were applied, none if it does not say. -/
def checkApplied (source : Source) : Value → Checked (List Change) :=
  Schema.record source "ApplyResult" fun entries =>
    Schema.optional entries "applied" [] (Schema.list source (check source))

end Change

namespace PlanMetadata

/-- A plan that does not say when it was made counts as made now. -/
def check (source : Source) (now : Timestamp) : Value → Checked PlanMetadata :=
  Schema.record source "PlanMetadata" fun entries =>
    ((((Schema.optional entries "host" none (Schema.nullable Schema.text)).map
      PlanMetadata.mk).and
      (Schema.optional entries "created_at" now (Schema.timestamp source))).and
      (Schema.required entries "destroy" Schema.bool)).and
      (Schema.required entries "engine_version" Schema.text)

def dump (m : PlanMetadata) : Json :=
  .obj
    [("host", .ofOption .str m.host),
      ("created_at", .str m.createdAt.toText),
      ("destroy", .bool m.destroy),
      ("engine_version", .str m.engineVersion)]

end PlanMetadata

namespace Plan

/-- The changes that change something, in the order of the plan. -/
def actionable (p : Plan) : List Change := p.changes.filter (·.isActionable)

/-- The counts of a plan by action. -/
def summary (p : Plan) : Tally := Tally.ofChanges p.changes

/-- Checks a saved plan. A missing time is the time of reading. -/
def check (source : Source) (now : Timestamp) : Value → Checked Plan :=
  Schema.record source "Plan" fun entries =>
    ((Schema.required entries "metadata" (PlanMetadata.check source now)).map Plan.mk).and
      (Schema.required entries "changes" (Schema.list source (Change.check source)))

def dump (p : Plan) : Json :=
  .obj [("metadata", p.metadata.dump), ("changes", .arr (p.changes.map Change.dump))]

end Plan

end CiVariables
