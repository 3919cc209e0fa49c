import CiVariables.Decimal.IntegerText
import CiVariables.Schema.Issue

/-!
# Checking loose data

A check turns loose data into a typed value or a list of issues. `Checked.and` runs a further
check whether or not the ones before it failed, so all issues are reported together, in the order
in which the checks are written. Scalars are read generously: a boolean from the usual words and
from zero and one, an integer from a whole floating-point number or a decimal text.
-/

namespace CiVariables.Schema

-- A power is the one of the core library, whatever else is imported.
attribute [local instance (2000)] instPowNat

/-- The outcome of a check. -/
inductive Checked (α : Type) where
  | valid (value : α)
  | invalid (issues : List Issue)

namespace Checked

variable {α β : Type}

def map (f : α → β) : Checked α → Checked β
  | valid a => valid (f a)
  | invalid issues => invalid issues

def bind (checked : Checked α) (f : α → Checked β) : Checked β :=
  match checked with
  | valid a => f a
  | invalid issues => invalid issues

/-- Applies a checked function to a further checked value; the issues of both are kept. -/
def and : Checked (α → β) → Checked α → Checked β
  | valid f, valid a => valid (f a)
  | valid _, invalid issues => invalid issues
  | invalid issues, valid _ => invalid issues
  | invalid issues, invalid more => invalid (issues ++ more)

/-- Keeps the value and adds the issues of a check without a value of its own. -/
def andUnit (checked : Checked α) (extra : Checked Unit) : Checked α :=
  (checked.map fun a _ => a).and extra

/-- The issues seen from one step further out. -/
def under (step : Step) : Checked α → Checked α
  | valid a => valid a
  | invalid issues => invalid (issues.map (·.under step))

/-- A check that fails with one issue, at the value itself. -/
def fail (kind : IssueKind) : Checked α := invalid [⟨[], kind⟩]

/-- The value, if the check went well. -/
def value? : Checked α → Option α
  | valid a => some a
  | invalid _ => none

/-- Checks the items of a list; each issue is placed at its position. -/
def forItems (check : Value → Checked α) : Int → List Value → Checked (List α)
  | _, [] => valid []
  | i, v :: rest =>
    (((check v).under (.index i)).map fun a as => a :: as).and (forItems check (i + 1) rest)

end Checked

/-- The text that bytes encode, or an issue. -/
def textOfBytes (undecodable : IssueKind) (content : List UInt8) : Checked String :=
  match Utf8.decode content with
  | .ok cs => .valid (String.ofList cs)
  | .error _ => .fail undecodable

/-- A text that is looked into, and so may not hold half of a surrogate pair. -/
def wholeText (s : String) : Checked String :=
  if CiVariables.Text.hasHalf s then .fail .stringUnicode else .valid s

/-- A text. Bytes are accepted if they encode one. -/
def text : Value → Checked String
  | .text s => .valid s
  | .bytes content => textOfBytes .stringUnicode content
  | _ => .fail .stringType

/-- A text that passes a test, or else an issue. -/
def textWith (test : String → Bool) (otherwise : IssueKind) (v : Value) : Checked String :=
  ((text v).bind wholeText).bind fun s => if test s then .valid s else .fail otherwise

/-- A text that is not empty. -/
def nonemptyText : Value → Checked String := textWith (· != "") .stringTooShort

/-- An identifier: ASCII letters, digits and underscores, at least one. -/
def isIdentifier (s : String) : Bool :=
  !s.toList.isEmpty && s.toList.all fun c => c.isAlphanum || c == '_'

/-- A text that is an identifier. -/
def identifier : Value → Checked String :=
  textWith isIdentifier (.stringPatternMismatch "^[a-zA-Z0-9_]+$")

/-- Reads the text of a value that is written in words; none if it is no text. -/
def word? (undecodable : IssueKind) : Value → Option (Checked String)
  | .text s => some (wholeText s)
  | .bytes content => some (textOfBytes undecodable content)
  | _ => none

/-- One of a choice of words, which the message lists. -/
def oneOf {α : Type} (expected : String) (ofText? : String → Option α) (v : Value) : Checked α :=
  match word? (.enum expected) v with
  | some checked =>
    checked.bind fun s =>
      match ofText? s with
      | some a => .valid a
      | none => .fail (.enum expected)
  | none => .fail (.enum expected)

/-- The boolean that a word stands for. ASCII letters are read in either case. -/
def boolOfWord? (s : String) : Option Bool :=
  let word := String.ofList (s.toList.map Char.toLower)
  if ["0", "off", "f", "false", "n", "no"].contains word then some false
  else if ["1", "on", "t", "true", "y", "yes"].contains word then some true
  else none

/-- The integer fits in 64 bits. -/
def fitsWord (n : Int) : Bool := -(2 ^ (63 : Nat)) ≤ n && n < 2 ^ (63 : Nat)

/-- The boolean that zero or one stands for. -/
def boolOfInt (n : Int) : Checked Bool :=
  if n = 0 then .valid false
  else if n = 1 then .valid true
  else if fitsWord n then .fail .boolParsing
  else .fail .boolType

/-- The boolean that a text stands for. -/
def boolOfText (s : String) : Checked Bool :=
  match boolOfWord? s with
  | some b => .valid b
  | none => .fail .boolParsing

/-- A boolean. Zero, one and the words for true and false are read as one. -/
def bool : Value → Checked Bool
  | .bool b => .valid b
  | .int n => boolOfInt n
  | .float x =>
    match x.toInt? with
    | some n => if fitsWord n then boolOfInt n else .fail .boolType
    | none => .fail .boolType
  | v =>
    match word? .boolParsing v with
    | some checked => checked.bind boolOfText
    | none => .fail .boolType

/-- The integer that a text writes. -/
def intOfText (s : String) : Checked Int :=
  match IntegerText.read s.toList with
  | .ok n => .valid n
  | .error .malformed => .fail .intParsing
  | .error .tooLong => .fail .intParsingSize

/-- An integer. A boolean, a number without a fraction, and a text that writes an integer are read
as one. -/
def int : Value → Checked Int
  | .int n => .valid n
  | .bool b => .valid (if b then 1 else 0)
  | .float x =>
    if !x.isFinite then .fail .finiteNumber
    else
      match x.toInt? with
      | none => .fail .intFromFloat
      | some n =>
        if -(2 ^ (63 : Nat)) < n && n < 2 ^ (63 : Nat) then .valid n else .fail .intParsingSize
  | v =>
    match word? .intParsing v with
    | some checked => checked.bind intOfText
    | none => .fail .intType

/-- Null, or what a check accepts. -/
def nullable {α : Type} (check : Value → Checked α) : Value → Checked (Option α)
  | .null => .valid none
  | v => (check v).map some

/-- A list of what a check accepts. -/
def list {α : Type} (source : Source) (check : Value → Checked α) : Value → Checked (List α)
  | .list items | .set items => Checked.forItems check 0 items
  | _ => .fail (.listType source)

/-- A key that has to be a text. The issue is placed at the key itself. -/
def textKey (key : Key) : Checked String :=
  let place (kind : IssueKind) : Checked String :=
    .invalid [⟨[Step.ofKey key, .name "[key]"], kind⟩]
  match key with
  | .text s => .valid s
  | .bytes content =>
    match Utf8.decode content with
    | .ok cs => .valid (String.ofList cs)
    | .error _ => place .stringUnicode
  | .int _ | .other _ => place .stringType

/-- Checks keys and values in order. Every entry that is wrong is told, the key before the value. -/
def textEntries {α : Type} (check : Value → Checked α) : Entries → Checked (List (String × α))
  | [] => .valid []
  | (k, v) :: rest =>
    (((textKey k).map fun k a as => (k, a) :: as).and ((check v).under (Step.ofKey k))).and
      (textEntries check rest)

/-- Overwrites the value of a name in place, or adds it at the end. -/
def assign {α : Type} (name : String) (value : α) : List (String × α) → List (String × α)
  | [] => [(name, value)]
  | (k, v) :: rest => if k = name then (k, value) :: rest else (k, v) :: assign name value rest

/-- A mapping from texts to what a check accepts. Of keys that read as one text the last counts. -/
def dict {α : Type} (source : Source) (check : Value → Checked α) :
    Value → Checked (List (String × α))
  | .map entries =>
    (textEntries check entries).map fun pairs =>
      pairs.foldl (fun acc (k, v) => assign k v acc) []
  | _ => .fail (.dictType source)

/-- A member that has to be there. -/
def required {α : Type} (entries : Entries) (name : String) (check : Value → Checked α) :
    Checked α :=
  match entries.get? name with
  | some v => (check v).under (.name name)
  | none => .invalid [⟨[.name name], .missing⟩]

/-- A member that may be left out. -/
def optional {α : Type} (entries : Entries) (name : String) (fallback : α)
    (check : Value → Checked α) : Checked α :=
  match entries.get? name with
  | some v => (check v).under (.name name)
  | none => .valid fallback

/-- The issues of entries that are not among the known members, in order. -/
def unknownIssues (known : List String) : Entries → List Issue
  | [] => []
  | (.text s, _) :: rest =>
    if known.contains s then unknownIssues known rest
    else ⟨[.name s], .extraForbidden⟩ :: unknownIssues known rest
  | (key, _) :: rest => ⟨[Step.ofKey key], .invalidKey⟩ :: unknownIssues known rest

/-- A key holds half of a surrogate pair, so that it cannot be the name of a member. -/
def hasBrokenName (entries : Entries) : Bool :=
  entries.any fun (key, _) =>
    match key with
    | .text s => CiVariables.Text.hasHalf s
    | _ => false

/-- No members but the known ones. A name that cannot be read is the only issue that is told. -/
def closed {α : Type} (known : List String) (entries : Entries) (checked : Checked α) : Checked α :=
  if hasBrokenName entries then .fail .stringUnicode
  else
    checked.andUnit <|
      match unknownIssues known entries with
      | [] => .valid ()
      | issues => .invalid issues

/-- A mapping whose members a check looks at. -/
def record {α : Type} (source : Source) (model : String) (check : Entries → Checked α) :
    Value → Checked α
  | .map entries => check entries
  | _ => .fail (.modelType source model)

end CiVariables.Schema
