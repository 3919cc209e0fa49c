import CiVariables.Decimal.Shortest
import CiVariables.Schema.Value
import CiVariables.Yaml.Moment

/-!
# Scalars and keys

`Atom` is the value of a scalar. A key is an atom or a tuple of keys; a mapping holds a key once.
Two keys are one if they are equal as values: numbers and booleans by number, moments by instant,
and not-a-number only with itself.
-/

namespace CiVariables.Yaml

open CiVariables

-- A power is the one of the core library, whatever else is imported.
attribute [local instance (2000)] instPowNat

/-- The value of a scalar. -/
inductive Atom where
  | null
  | bool (b : Bool)
  | int (n : Int)
  | float (x : Double)
  /-- Not-a-number: the common one, or one of the node with a number. -/
  | nan (origin : Option Nat)
  | text (s : String)
  | bytes (content : List UInt8)
  | moment (m : Moment)
  deriving DecidableEq, Inhabited

namespace Atom

/-- The number that an atom is, as far as it is one. -/
def numeric? : Atom → Option (Int ⊕ Double)
  | .bool b => some (.inl (if b then 1 else 0))
  | .int n => some (.inl n)
  | .float x => some (.inr x)
  | _ => none

/-- The atoms are one key. -/
def same (a b : Atom) : Bool :=
  match a.numeric?, b.numeric? with
  | some x, some y => Json.sameNumber x y
  | none, none =>
    match a, b with
    | .moment m, .moment n => m.same n
    | a, b => a == b
  | _, _ => false

def label : Atom → String
  | .null => "None"
  | .bool b => if b then "True" else "False"
  | .int n => toString n
  | .float x => x.display
  | .nan _ => "nan"
  | .text s => CiVariables.Text.quoted s
  | .bytes content => CiVariables.Text.quotedBytes content
  | .moment m => m.label

/-- The atom as loose data. -/
def toValue : Atom → Schema.Value
  | .null => .null
  | .bool b => .bool b
  | .int n => .int n
  | .float x => .float x
  | .nan _ => .float .nan
  | .text s => .text s
  | .bytes content => .bytes content
  | .moment m => .foreign m.kindName

end Atom

/-- What can stand for a place in a mapping. -/
inductive Key where
  | atom (a : Atom)
  | tuple (items : List Key)
  deriving Inhabited

namespace Key

mutual

/-- The keys are one. -/
def same : Key → Key → Bool
  | .atom a, .atom b => a.same b
  | .tuple as, .tuple bs => sameItems as bs
  | _, _ => false

/-- Keys in order are the same. -/
def sameItems : List Key → List Key → Bool
  | [], [] => true
  | a :: as, b :: bs => same a b && sameItems as bs
  | _, _ => false

end

mutual

/-- The key in messages. A tuple of one item keeps a comma. -/
def label : Key → String
  | .atom a => a.label
  | .tuple [a] => "(" ++ label a ++ ",)"
  | .tuple items => "(" ++ CiVariables.Text.join ", " (labels items) ++ ")"

def labels : List Key → List String
  | [] => []
  | a :: as => label a :: labels as

end

/-- The key as the checks see it. -/
def toSchema : Key → Schema.Key
  | .atom (.text s) => .text s
  | .atom (.bytes content) => .bytes content
  | .atom (.bool b) => .int (if b then 1 else 0)
  | .atom (.int n) =>
    if -(2 ^ (63 : Nat)) ≤ n && n < 2 ^ (63 : Nat) then .int n else .other (toString n)
  | key => .other key.label

end Key

end CiVariables.Yaml
