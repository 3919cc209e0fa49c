import CiVariables.Marker

/-!
# Comparing what is declared with what is observed

`differences` lists the declared fields whose value is not the observed one, in the order of the
fields. Unset fields are not managed and never differ, pointers and the project number are never
compared, and two empty values are equal. `Parameters.lateInitialize` fills the unset fields that
the service fills itself, so that a later request repeats what is there.
-/

namespace CiVariables

open Schema (Checked)

/-- A field whose declared value is not the observed one. -/
structure Difference where
  field : String
  before : Json
  after : Json

namespace Difference

/-- The two values as an object. -/
def dump (d : Difference) : Json := .obj [("from", d.before), ("to", d.after)]

def dumpAll (ds : List Difference) : Fields := ds.map fun d => (d.field, d.dump)

end Difference

/-- An observed variable in the form of a declaration. One whose key no declaration can have has
none. -/
def Observed.toParameters (o : Observed) : Checked Parameters :=
  ((Schema.nonemptyText (.text o.key)).under (.name "key")).map fun key =>
    { key, value := some o.value, kind := some o.kind, isProtected := some o.isProtected
      masked := some o.masked, scope := some o.scope, raw := some o.raw }

namespace Attribute

/-- The value is null. -/
def isUnset : Attribute → Bool
  | plain .null => true
  | _ => false

/-- The value as it is shown in a difference; null for one without a plain form. -/
def shown (a : Attribute) : Json := a.plain?.getD .null

/-- Two attributes differ if they are shown differently. -/
def differs (want seen : Attribute) : Bool := !(want.shown == seen.shown)

end Attribute

/-- The difference of one field, if it is managed and its values differ. -/
def fieldDifference? (field : String) (want seen : Attribute) : Option Difference :=
  if want.isIgnored || seen.isIgnored then none
  else if want.isUnset then none
  else if want.isEmpty && seen.isEmpty then none
  else if want.differs seen then some ⟨field, seen.shown, want.shown⟩
  else none

/-- The value of a record's field, null if there is none. -/
def Record.valueOf (fields : Record) (name : String) : Attribute :=
  match fields.lookup name with
  | some (_, value) => value
  | none => .plain .null

/-- The differences between the fields of a declared and an observed record. -/
def recordDifferences (desired observed : Record) : List Difference :=
  let ignored := Record.ignoredFields desired
  desired.filterMap fun (name, _, want) =>
    if ignored.contains name then none
    else fieldDifference? name want (Record.valueOf observed name)

/-- The differences between a declaration and an observed variable; none for nothing declared. -/
def differences (desired : Option Parameters) (observed : Option Observed) :
    Checked (List Difference) :=
  match desired, observed with
  | none, _ => .valid []
  | some p, none => .valid (recordDifferences p.record [])
  | some p, some o => o.toParameters.map fun q => recordDifferences p.record q.record

/-- No managed field differs. What is not there yet is not up to date. -/
def isUpToDate (desired : Option Parameters) (observed : Option Observed) : Checked Bool :=
  match desired, observed with
  | none, _ => .valid true
  | some _, none => .valid false
  | desired, observed => (differences desired observed).map (·.isEmpty)

/-- Fills the unset fields that the service has a value for. The value itself is never taken over:
masked and hidden variables do not return theirs. -/
def Parameters.lateInitialize (p : Parameters) : Option Observed → Parameters
  | none => p
  | some o =>
    { p with
      kind := p.kind.or (some o.kind)
      isProtected := p.isProtected.or (some o.isProtected)
      masked := p.masked.or (some o.masked)
      scope := p.scope.or (some o.scope)
      raw := p.raw.or (some o.raw) }

end CiVariables
