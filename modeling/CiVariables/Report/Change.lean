import CiVariables.Failure
import CiVariables.Report.Inline
import CiVariables.Terminal

/-!
# Showing plans and results

A change is shown as a block of lines with its attributes aligned; values of variables are masked.
A plan is its actionable changes with blank lines between them. Counts are shown as phrases, each
colored if it is not zero.
-/

namespace CiVariables.Report

open CiVariables
open CiVariables.Terminal (Color styleIf)

/-- How an action looks. -/
structure Look where
  color : Color
  symbol : String
  heading : String
  doing : String
  done : String

/-- The color, symbol and words of an action. -/
def lookOf : Action → Look
  | .create => ⟨.green, "+", "will be created", "Creating", "Created"⟩
  | .update => ⟨.yellow, "~", "will be updated in-place", "Updating", "Updated"⟩
  | .delete => ⟨.red, "-", "will be destroyed", "Destroying", "Destroyed"⟩
  | .keep => ⟨.brightBlack, " ", "is up-to-date", "", ""⟩

/-- The attribute whose values are never shown. -/
def isSensitive (name : String) : Bool := name == "value"

def placeholder : String := "(sensitive value)"

/-- What is shown of the value of an attribute. -/
def render (name : String) (value : Json) : String :=
  match value with
  | .null => "null"
  | value =>
    if isSensitive name then placeholder
    else
      match value with
      | .bool true => "true"
      | .bool false => "false"
      | .str s => "\"" ++ s ++ "\""
      | value => value.inline

/-- A member of a difference, which has to be an object that has it. -/
def memberOf (value : Json) (name : String) : Except Failure Json :=
  match value with
  | .obj fields =>
    match fields.lookup name with
    | some j => .ok j
    | none => .error (.missingMember name)
  | value => .error (.notAnObject value.kindName)

/-- What is shown of a difference: from what to what the attribute changes. -/
def renderDifference (name : String) (difference : Json) : Except Failure String :=
  match memberOf difference "from" with
  | .error failure => .error failure
  | .ok before =>
    match memberOf difference "to" with
    | .error failure => .error failure
    | .ok after => .ok (render name before ++ " -> " ++ render name after)

/-- The shown differences in order; the first incomplete one fails. -/
def differencePairs : Fields → Except Failure (List (String × String))
  | [] => .ok []
  | (name, difference) :: rest =>
    match renderDifference name difference with
    | .error failure => .error failure
    | .ok text =>
      match differencePairs rest with
      | .error failure => .error failure
      | .ok pairs => .ok ((name, text) :: pairs)

/-- What is shown of a variable that is deleted: its key and its scope. -/
def identityPairs (prior : Fields) : List (String × String) :=
  ["key", "environment_scope"].filterMap fun name =>
    (prior.lookup name).map fun value => (name, render name value)

/-- The attributes that are shown of a change, with their texts. -/
def attributePairs (c : Change) : Except Failure (List (String × String)) :=
  match c.action with
  | .create => .ok ((c.planned.getD []).map fun (name, value) => (name, render name value))
  | .update => differencePairs (c.diff.getD [])
  | .delete => .ok (identityPairs (c.prior.getD []))
  | .keep => .ok []

/-- What stands after the first point of an address; the whole address without one. -/
def shownName (address : String) : String :=
  match (address.toList.dropWhile (· != '.')).drop 1 with
  | [] => address
  | name => String.ofList name

def padRight (width : Nat) (s : String) : String :=
  s ++ String.ofList (List.replicate (width - s.length) ' ')

/-- How long the longest name is. -/
def widest (pairs : List (String × String)) : Nat :=
  pairs.foldl (fun n (name, _) => max n name.length) 0

/-- The block of a change: what happens to it, what it is, and its attributes. -/
def changeLines (color : Bool) (c : Change) (pairs : List (String × String)) : List String :=
  let look := lookOf c.action
  let width := widest pairs
  let opening :=
    "  " ++ look.symbol ++ " resource \"" ++ c.resourceType ++ "\" \"" ++ shownName c.address ++
      "\" \x7b"
  styleIf color look.color true ("  # " ++ c.address ++ " " ++ look.heading) ::
    styleIf color look.color false opening ::
    pairs.map (fun (name, text) =>
      styleIf color look.color false
        ("      " ++ look.symbol ++ " " ++ padRight width name ++ " = " ++ text)) ++
    [styleIf color look.color false "    \x7d"]

/-- The text of a change. -/
def change (color : Bool) (c : Change) : Except Failure String :=
  match attributePairs c with
  | .error failure => .error failure
  | .ok pairs => .ok (CiVariables.Text.join "\n" (changeLines color c pairs))

/-- The blocks of changes in order. -/
def changeBlocks (color : Bool) : List Change → Except Failure (List String)
  | [] => .ok []
  | c :: rest =>
    match change color c with
    | .error failure => .error failure
    | .ok block =>
      match changeBlocks color rest with
      | .error failure => .error failure
      | .ok blocks => .ok (block :: blocks)

/-- What is shown instead of an empty plan. -/
def noChanges : String := "No changes. Variables are up-to-date."

/-- The text of those changes that change something. -/
def changes (color : Bool) (cs : List Change) : Except Failure String :=
  match changeBlocks color (cs.filter Change.isActionable) with
  | .error failure => .error failure
  | .ok [] => .ok noChanges
  | .ok blocks => .ok (CiVariables.Text.join "\n\n" blocks)

/-- The text of a plan. -/
def plan (color : Bool) (p : Plan) : Except Failure String := changes color p.changes

/-- The plan changes something. -/
def hasActionableChanges (p : Plan) : Bool := !p.actionable.isEmpty

/-- The words for the count of an action, before and after it is applied. -/
def countWords (applied : Bool) : Action → String
  | .create => if applied then "added" else "to add"
  | .update => if applied then "changed" else "to change"
  | .delete => if applied then "destroyed" else "to destroy"
  | .keep => ""

/-- The count of one action in words. -/
def countPhrase (t : Tally) (applied color : Bool) (a : Action) : String :=
  let n := t.count a
  let text := toString n ++ " " ++ countWords applied a
  if n = 0 then text else styleIf color (lookOf a).color false text

/-- The counts in words. -/
def countPhrases (t : Tally) (applied color : Bool) : List String :=
  [Action.create, .update, .delete].map (countPhrase t applied color)

/-- The line with the counts of a plan. -/
def planSummary (color : Bool) (t : Tally) : String :=
  "Plan: " ++ CiVariables.Text.join ", " (countPhrases t false color) ++ "."

/-- The line with the counts of what was applied. -/
def applySummary (color : Bool) (t : Tally) : String :=
  styleIf color .green true "Apply complete!" ++ " Resources: " ++
    CiVariables.Text.join ", " (countPhrases t true color) ++ "."

end CiVariables.Report
