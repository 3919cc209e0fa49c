import CiVariables.Decimal.Double

/-!
# JSON values

Objects keep their members in order and integers are unbounded and apart from floating-point
numbers. `Json.sameValue` is equality as data: numbers by value, objects by their members in any
order.
-/

namespace CiVariables

/-- A JSON value. -/
inductive Json where
  | null
  | bool (b : Bool)
  | int (n : Int)
  | float (x : Double)
  | str (s : String)
  | arr (items : List Json)
  | obj (fields : List (String × Json))
  deriving Inhabited

/-- The members of an object. -/
abbrev Fields := List (String × Json)

namespace Fields

/-- The first member of a name. -/
def get? (fields : Fields) (name : String) : Option Json := fields.lookup name

/-- Overwrites the member of a name in place, or adds it at the end. -/
def set : Fields → String → Json → Fields
  | [], name, value => [(name, value)]
  | (k, v) :: rest, name, value =>
    if k = name then (k, value) :: rest else (k, v) :: set rest name value

/-- The object without the members of a name. -/
def erase (fields : Fields) (name : String) : Fields := fields.filter (·.1 != name)

/-- Takes over newer members: a known name keeps its place, the others are added at the end. -/
def update (fields newer : Fields) : Fields :=
  newer.foldl (fun acc (k, v) => acc.set k v) fields

/-- The members whose value is not null. -/
def dropNull (fields : Fields) : Fields :=
  fields.filter fun (_, v) => match v with | .null => false | _ => true

/-- The members without repetition: the last value of a name, at its first place. -/
def dedup (fields : Fields) : Fields := update [] fields

end Fields

namespace Json

mutual

def beq : Json → Json → Bool
  | .null, .null => true
  | .bool a, .bool b => a == b
  | .int a, .int b => a == b
  | .float a, .float b => a == b
  | .str a, .str b => a == b
  | .arr a, .arr b => beqItems a b
  | .obj a, .obj b => beqFields a b
  | _, _ => false

def beqItems : List Json → List Json → Bool
  | [], [] => true
  | a :: as, b :: bs => beq a b && beqItems as bs
  | _, _ => false

/-- Structural equality of object members, in order. -/
def beqFields : List (String × Json) → List (String × Json) → Bool
  | [], [] => true
  | (k, a) :: as, (l, b) :: bs => k == l && beq a b && beqFields as bs
  | _, _ => false

end

instance : BEq Json := ⟨beq⟩

/-- A boolean counts as the number one or zero. -/
def numeric? : Json → Option (Int ⊕ Double)
  | .bool b => some (.inl (if b then 1 else 0))
  | .int n => some (.inl n)
  | .float x => some (.inr x)
  | _ => none

/-- Two numbers are equal, be they integers or not. -/
def sameNumber : Int ⊕ Double → Int ⊕ Double → Bool
  | .inl a, .inl b => a == b
  | .inl a, .inr x => x.toInt? == some a
  | .inr x, .inl a => x.toInt? == some a
  | .inr x, .inr y => x.numEq y

mutual

/-- Equality as data: numbers by value, objects regardless of the order of members. -/
def sameValue : Json → Json → Bool
  | .null, .null => true
  | .str a, .str b => a == b
  | .arr a, .arr b => sameItems a b
  | .obj a, .obj b => a.length == b.length && coveredBy a b
  | a, b =>
    match a.numeric?, b.numeric? with
    | some x, some y => sameNumber x y
    | _, _ => false

/-- Equality as data of lists, item by item. -/
def sameItems : List Json → List Json → Bool
  | [], [] => true
  | a :: as, b :: bs => sameValue a b && sameItems as bs
  | _, _ => false

/-- Each member on the left has an equal one of the same name on the right. -/
def coveredBy : List (String × Json) → List (String × Json) → Bool
  | [], _ => true
  | (k, a) :: as, bs =>
    (match bs.lookup k with | some b => sameValue a b | none => false) && coveredBy as bs

end

def str? : Json → Option String
  | .str s => some s
  | _ => none

def fields? : Json → Option Fields
  | .obj fields => some fields
  | _ => none

/-- The member of an object, null for anything else. -/
def member (j : Json) (name : String) : Json :=
  match j with
  | .obj fields => (fields.lookup name).getD .null
  | _ => .null

mutual

/-- The texts among the values, in order. The names of members are not looked at. -/
def texts : Json → List String
  | .str s => [s]
  | .arr items => textsOfItems items
  | .obj fields => textsOfFields fields
  | .null | .bool _ | .int _ | .float _ => []

def textsOfItems : List Json → List String
  | [] => []
  | j :: rest => j.texts ++ textsOfItems rest

def textsOfFields : List (String × Json) → List String
  | [] => []
  | (_, j) :: rest => j.texts ++ textsOfFields rest

end

/-- A value or null. -/
def ofOption {α : Type} (f : α → Json) : Option α → Json
  | none => .null
  | some a => f a

end Json

end CiVariables
