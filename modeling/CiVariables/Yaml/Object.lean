import CiVariables.Yaml.Scalar

/-!
# Building the values of a document

A node is built once, and every place that refers to it gets the same value. A collection is made
empty and filled later, after the collections around it, so that it may hold itself; only the parts
of a key are filled at once, since they have to be known by then. A list as a key becomes a tuple of
what it holds at that moment.

Before a mapping is filled, the entries of the mappings that it merges are put in front of its own.
An entry of its own, and of several merged mappings the first, then has the last word. A mapping
that merges nothing may not hold a key twice.
-/

namespace CiVariables.Yaml

open CiVariables

-- A power is the one of the core library, whatever else is imported.
attribute [local instance (2000)] instPowNat

/-- A built value: an atom, a tuple, or the collection of a number. -/
inductive Item where
  | atom (a : Atom)
  | tuple (items : List Item)
  | collection (id : Nat)
  deriving Inhabited

/-- A collection as far as it has been filled. -/
inductive Collection where
  | list (items : List Item)
  | mapping (entries : List (Key × Item))
  | set (keys : List Key)
  deriving Inhabited

/-- What has been built of a document, and what is left to do. -/
structure Builder where
  isOld : Bool
  nodes : Array Node
  /-- The entries that the mapping of a number has merged. -/
  merged : Array (Array (Nat × Nat))
  collections : Array Collection := #[]
  /-- The value of every node that has been built. -/
  built : Array (Option Item)
  /-- The nodes that are being built. -/
  active : List Nat := []
  /-- Collections are filled at once. -/
  isDeep : Bool := false
  /-- The nodes of collections that wait to be filled, with the collections. -/
  waiting : Array (Nat × Nat) := #[]
  deriving Inhabited

/-- A step of building, which may fail. -/
abbrev Build (α : Type) := StateT Builder Option α

namespace Item

mutual

/-- The key that an item is; a collection is none. -/
def key? : Item → Option Key
  | .atom a => some (.atom a)
  | .tuple items => (keys? items).map .tuple
  | .collection _ => none

def keys? : List Item → Option (List Key)
  | [] => some []
  | a :: as =>
    match key? a, keys? as with
    | some k, some ks => some (k :: ks)
    | _, _ => none

end

end Item

namespace Build

def fail {α : Type} : Build α := fun _ => none

/-- Fails unless there is a value. -/
def ofOption {α : Type} : Option α → Build α
  | some a => pure a
  | none => fail

def node (id : Nat) : Build Node := do ofOption ((← get).nodes[id]?)

def entries (id : Nat) : Build (Array (Nat × Nat)) := do
  match (← node id).content with
  | .mapping entries => pure entries
  | _ => fail

def items (id : Nat) : Build (List Nat) := do
  match (← node id).content with
  | .sequence items => pure items
  | _ => fail

def setNode (id : Nat) (n : Node) : Build Unit :=
  modify fun s => { s with nodes := s.nodes.setIfInBounds id n }

def setEntries (id : Nat) (entries : Array (Nat × Nat)) : Build Unit := do
  setNode id { ← node id with content := .mapping entries }

/-! ## Merging -/

mutual

/-- Brings the entries of merged mappings in front of the entries of a mapping. -/
def flatten : Nat → Nat → Build Unit
  | 0, _ => fail
  | fuel + 1, id => flattenFrom fuel id 0 #[]

/-- Looks for marks among the entries from an index on. The mark for merging goes, and there may be
only one that merges anything; the mark for a default value becomes a text. -/
def flattenFrom : Nat → Nat → Nat → Array (Nat × Nat) → Build Unit
  | 0, _, _, _ => fail
  | fuel + 1, id, index, merge => do
    let own ← entries id
    match own[index]? with
    | none =>
      if merge.isEmpty then pure ()
      else
        setEntries id (merge ++ own)
        modify fun s => { s with merged := s.merged.setIfInBounds id merge }
    | some (key, value) =>
      let keyNode ← node key
      match keyNode.tag with
      | .merge =>
        if !merge.isEmpty then fail
        setEntries id (own.eraseIdxIfInBounds index)
        let merge ← mergedEntries fuel value
        flattenFrom fuel id index merge
      | .default =>
        setNode key { keyNode with tag := .text }
        flattenFrom fuel id (index + 1) merge
      | _ => flattenFrom fuel id (index + 1) merge

/-- The entries that a node brings in: those of a mapping, or those of the mappings of a sequence,
the last of them first. -/
def mergedEntries : Nat → Nat → Build (Array (Nat × Nat))
  | 0, _ => fail
  | fuel + 1, id => do
    let ofMapping (id : Nat) : Build (Array (Nat × Nat)) := do
      let _ ← entries id
      flatten fuel id
      entries id
    match (← node id).content with
    | .mapping _ => ofMapping id
    | .sequence items =>
      let parts ← items.mapM ofMapping
      pure (parts.reverse.foldl (· ++ ·) #[])
    | .scalar _ => fail

end

/-! ## Values -/

/-- The text of a node: a scalar, or the default value of a mapping. -/
def text : Nat → Nat → Build (List Char)
  | 0, _ => fail
  | fuel + 1, id => do
    match (← node id).content with
    | .scalar text => pure text
    | .sequence _ => fail
    | .mapping entries =>
      let nodes := (← get).nodes
      match entries.find? fun (key, _) => (nodes[key]?.map Node.tag) == some .default with
      | some (_, value) => text fuel value
      | none => fail

/-- The key that a built item is. A list becomes a tuple. -/
def keyOf (item : Item) : Build Key := do
  match item with
  | .collection id =>
    match (← get).collections[id]? with
    | some (.list items) => ofOption ((Item.keys? items).map .tuple)
    | _ => fail
  | item => ofOption item.key?

/-- Overwrites the value of a key in place, or adds it at the end. -/
def assign (key : Key) (value : Item) : List (Key × Item) → List (Key × Item)
  | [] => [(key, value)]
  | (k, v) :: rest =>
    if k.same key then (k, value) :: rest else (k, v) :: assign key value rest

/-- No two entries have one key. -/
def isDistinct : List (Key × Item) → Bool
  | [] => true
  | (k, _) :: rest => !(rest.any fun (l, _) => l.same k) && isDistinct rest

/-- The only entry of a mapping. -/
def single (id : Nat) : Build (Nat × Nat) := do
  match (← entries id).toList with
  | [entry] => pure entry
  | _ => fail

mutual

/-- The value of a node. A node that is being built counts as null. -/
def object : Nat → Bool → Nat → Build Item
  | 0, _, _ => fail
  | fuel + 1, isDeep, id => do
    let s ← get
    match s.built[id]?.join with
    | some item => pure item
    | none =>
      if s.active.contains id then pure (.atom .null)
      else
        set { s with active := id :: s.active, isDeep := isDeep || s.isDeep }
        let item ← create fuel id
        modify fun t =>
          { t with
            built := t.built.setIfInBounds id (some item)
            active := s.active
            isDeep := s.isDeep }
        pure item

/-- Builds the value of a node. A collection is filled at once if keys need its content, else later.
-/
def create : Nat → Nat → Build Item
  | 0, _ => fail
  | fuel + 1, id => do
    let n ← node id
    let start (c : Collection) : Build Item := do
      let s ← get
      let number := s.collections.size
      set { s with collections := s.collections.push c }
      if s.isDeep then fill fuel id number
      else modify fun s => { s with waiting := s.waiting.push (id, number) }
      pure (.collection number)
    match n.tag with
    | .list | .pairs => start (.list [])
    | .mapping | .orderedMapping => start (.mapping [])
    | .set => start (.set [])
    | .timestamp =>
      match n.content with
      | .scalar text => return .atom (← ofOption (Scalar.atom? false id .timestamp text))
      | _ => fail
    | tag =>
      let text ← text fuel id
      return .atom (← ofOption (Scalar.atom? (← get).isOld id tag text))

/-- Fills a collection that was started empty. -/
def fill : Nat → Nat → Nat → Build Unit
  | 0, _, _ => fail
  | fuel + 1, id, number => do
    let pair (isDeep : Bool) (toKey : Item → Build Key) (entry : Nat × Nat) :
        Build (Key × Item) := do
      let key ← toKey (← object fuel isDeep entry.1)
      let value ← object fuel false entry.2
      pure (key, value)
    let pairs : Build (List (Key × Item)) := do
      flatten fuel id
      let own ← (← entries id).toList.mapM (pair true keyOf)
      let merged := ((← get).merged[id]?).getD #[]
      if merged.isEmpty then
        if isDistinct own then pure own else fail
      else pure (own.foldl (fun acc (k, v) => assign k v acc) [])
    let content : Collection ←
      match (← node id).tag with
      | .list =>
        let items ← (← items id).mapM (object fuel false)
        pure (.list items)
      | .pairs =>
        let items ← (← items id).mapM fun id => do
          let (k, v) ← single id
          let key ← object fuel false k
          let value ← object fuel false v
          pure (Item.tuple [key, value])
        pure (.list items)
      | .orderedMapping =>
        let entries ← (← items id).mapM fun id => do
          pair false (fun item => ofOption item.key?) (← single id)
        if isDistinct entries then pure (.mapping entries) else fail
      | .set => do
        let entries ← pairs
        pure (.set (entries.map (·.1)))
      | _ => do
        let entries ← pairs
        pure (.mapping entries)
    modify fun s => { s with collections := s.collections.setIfInBounds number content }

end

/-- Fills waiting collections, round after round, until none is left. -/
def fillWaiting (steps : Nat) : Nat → Build Unit
  | 0 => fail
  | fuel + 1 => do
    let tasks := (← get).waiting
    if tasks.isEmpty then pure ()
    else
      modify fun s => { s with waiting := #[] }
      tasks.toList.forM fun (id, number) => fill steps id number
      fillWaiting steps fuel

end Build

/-- How many nested steps building a document of a size may take. -/
def stepLimit (size : Nat) : Nat := (size + 2) ^ (4 : Nat)

/-- The root of a document with everything filled, and all collections. -/
def Document.build? (doc : Document) : Option (Item × Array Collection) :=
  let size := doc.nodes.size
  let steps := stepLimit size
  let work : Build Item := do
    let root ← Build.object steps false doc.root
    Build.fillWaiting steps (size + 2)
    pure root
  let start : Builder :=
    { isOld := doc.isOld, nodes := doc.nodes, merged := Array.replicate size #[]
      built := Array.replicate size none }
  (work.run start).map fun (root, s) => (root, s.collections)

end CiVariables.Yaml
