import CiVariables.Yaml.Object
import CiVariables.Yaml.Source

/-!
# From YAML documents to loose data

`Yaml.read?` reads the only document of a stream. What a document holds may be shared and may hold
itself; loose data is a tree, so it is followed to a fixed depth, below which every collection is
empty. A declaration file is not that deep.
-/

namespace CiVariables.Yaml

open CiVariables
open CiVariables.Schema (Value)

namespace Item

/-- An item as loose data, given what the collections are. -/
def toValue (known : Array Value) : Item → Value
  | .atom a => a.toValue
  | .tuple _ => .foreign "tuple"
  | .collection id => (known[id]?).getD .null

end Item

namespace Collection

/-- A collection as loose data, given what the collections in it are. -/
def toValue (known : Array Value) : Collection → Value
  | .list items => .list (items.map (Item.toValue known))
  | .mapping entries => .map (entries.map fun (k, item) => (k.toSchema, item.toValue known))
  | .set keys =>
    .set (keys.map fun key =>
      match key with
      | .atom a => a.toValue
      | .tuple _ => .foreign "tuple")

/-- The collection without what it holds. -/
def hollow : Collection → Value
  | .list _ => .list []
  | .mapping _ => .map []
  | .set _ => .set []

/-- Collections as loose data, followed to a depth. -/
def unfold (cs : Array Collection) : Nat → Array Value
  | 0 => cs.map hollow
  | depth + 1 => cs.map (toValue (unfold cs depth))

end Collection

def documentDepth : Nat := 10

/-- The value of the only document of a stream; null if there is none. -/
def read? (bytes : List UInt8) : Option Value := do
  let cs ← sourceChars? bytes
  let tokens ← tokens? cs
  match ← Document.ofTokens? tokens with
  | none => some .null
  | some doc =>
    let (root, collections) ← doc.build?
    some (root.toValue (Collection.unfold collections documentDepth))

end CiVariables.Yaml
