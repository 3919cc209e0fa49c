import CiVariables.Yaml.Tag

/-!
# YAML nodes

A document is a graph: its nodes are numbered, and a collection holds the numbers of its parts. An
anchor names a number and an alias stands for it, so an alias may also stand inside the node that it
names. `Document.ofTokens?` reads a stream of at most one document.
-/

namespace CiVariables.Yaml

/-- What a node consists of. -/
inductive Content where
  | scalar (text : List Char)
  | sequence (items : List Nat)
  | mapping (entries : Array (Nat × Nat))
  deriving DecidableEq, Inhabited

/-- A piece of a document. -/
structure Node where
  tag : Tag
  content : Content
  deriving DecidableEq, Inhabited

/-- A document: its nodes by number, and the number of its root. -/
structure Document where
  nodes : Array Node
  root : Nat
  /-- The document asks for version 1.1. -/
  isOld : Bool
  deriving Inhabited

/-- The tokens that are left, the tag handles, and the nodes and anchors so far. -/
structure Reader where
  tokens : List Token
  handles : List (List Char × List Char) := []
  nodes : Array Node := #[]
  anchors : List (List Char × Nat) := []
  /-- How many collections are around the next token. -/
  depth : Nat := 0
  deriving Inhabited

/-- A step of reading, which may fail. -/
abbrev Read (α : Type) := StateT Reader Option α

namespace Read

def fail {α : Type} : Read α := fun _ => none

/-- The next token, which stays. -/
def peek? : Read (Option Token) := do return (← get).tokens.head?

def nextIs (test : Token → Bool) : Read Bool := do
  return match (← get).tokens with
    | t :: _ => test t
    | [] => false

def drop : Read Unit := modify fun s => { s with tokens := s.tokens.tail }

/-- Drops the next token if it is the given one. -/
def accept (t : Token) : Read Bool := do
  if ← nextIs (· == t) then
    drop
    pure true
  else pure false

/-- Drops the next token, which has to be the given one. -/
def expect (t : Token) : Read Unit := do
  if ← accept t then pure () else fail

/-- How deep collections may be nested. -/
def maxDepth : Nat := 485

/-- Reads something a level deeper. -/
def inside {α : Type} (read : Read α) : Read α := do
  if (← get).depth < maxDepth then
    modify fun s => { s with depth := s.depth + 1 }
    let a ← read
    modify fun s => { s with depth := s.depth - 1 }
    pure a
  else fail

/-- Adds a node and returns its number. -/
def add (node : Node) : Read Nat := do
  let s ← get
  set { s with nodes := s.nodes.push node }
  pure s.nodes.size

/-- A scalar without text. -/
def empty : Read Nat := add ⟨.null, .scalar []⟩

/-- The anchor in front of a node. -/
def anchor? : Read (Option (List Char)) := do
  match ← peek? with
  | some (.anchor name) =>
    drop
    pure (some name)
  | _ => pure none

/-- The full name of a tag: its handle expanded, the rest decoded. -/
def tagName (handle : Option (List Char)) (suffix : List Char) : Read (List Char) := do
  let expansion ←
    match handle with
    | none => pure []
    | some handle =>
      match (← get).handles.lookup handle with
      | some expansion => pure expansion
      | none => fail
  match Tag.decodeName? suffix with
  | some name => pure (expansion ++ name)
  | none => fail

/-- The tag in front of a node, by its full name. -/
def tag? : Read (Option (List Char)) := do
  match ← peek? with
  | some (.tag handle suffix) =>
    drop
    let name ← tagName handle suffix
    pure (some name)
  | _ => pure none

/-- The properties in front of a node, in either order. -/
def properties : Read (Option (List Char) × Option (List Char)) := do
  match ← anchor? with
  | some a => do
    let t ← tag?
    pure (some a, t)
  | none => do
    let t ← tag?
    let a ← if t.isSome then anchor? else pure none
    pure (a, t)

/-- The tag of a node from the name in front of it; a lone mark asks for the tag that the node would
have without one. -/
def tagOr (unnamed untagged : Tag) : Option (List Char) → Tag
  | none => untagged
  | some ['!'] => unnamed
  | some name => Tag.ofName name

/-- Gives a node its number, and its anchor the same, before its content is read. -/
def reserve (anchor : Option (List Char)) : Read Nat := do
  let id ← add ⟨.null, .scalar []⟩
  match anchor with
  | none => pure ()
  | some name => modify fun s => { s with anchors := (name, id) :: s.anchors }
  pure id

/-- Gives a reserved number its node. -/
def define (id : Nat) (node : Node) : Read Nat := do
  modify fun s => { s with nodes := s.nodes.setIfInBounds id node }
  pure id

/-- Where a node stands, which decides what may start it. -/
inductive Place where
  /-- Inside a flow collection. -/
  | flow
  /-- A line of its own. -/
  | block
  /-- After a key or the colon of a block mapping, where a sequence needs no indentation. -/
  | mappingPart
  deriving DecidableEq

def isBlockSequenceEnd (t : Token) : Bool := t == .blockEntry || t == .blockEnd

def isBlockMappingEnd (t : Token) : Bool := t == .key || t == .value || t == .blockEnd

def isIndentlessEnd (t : Token) : Bool := t == .blockEntry || isBlockMappingEnd t

def isFlowSequenceEnd (t : Token) : Bool := t == .flowEntry || t == .flowSequenceEnd

def isFlowMappingEnd (t : Token) : Bool := t == .flowEntry || t == .flowMappingEnd

/-- No token, or one that satisfies a test, comes next. -/
def ends (test : Token → Bool) : Read Bool := do
  return match (← get).tokens with
    | t :: _ => test t
    | [] => true

mutual

/-- Reads a node and returns its number; an alias is the node of its anchor. -/
def node (isOld : Bool) : Nat → Place → Read Nat
  | 0, _ => fail
  | fuel + 1, place => do
    match ← peek? with
    | some (.alias name) =>
      drop
      match (← get).anchors.lookup name with
      | some id => pure id
      | none => fail
    | _ =>
      let (anchor, tag) ← properties
      let token? ← peek?
      let id ← reserve anchor
      let nothing : Read Node :=
        if anchor.isSome || tag.isSome then pure ⟨tagOr .null .null tag, .scalar []⟩ else fail
      let sequence (items : Read (List Nat)) : Read Node := do
        let items ← inside items
        pure ⟨tagOr .list .list tag, .sequence items⟩
      let mapping (entries : Read (List (Nat × Nat))) : Read Node := do
        let entries ← inside entries
        pure ⟨tagOr .mapping .mapping tag, .mapping entries.toArray⟩
      let content ←
        match token? with
        | some (.scalar text isPlain) => do
          drop
          let form := Tag.ofForm isOld text
          pure ⟨tagOr form (if isPlain then form else .text) tag, .scalar text⟩
        | some .flowSequenceStart => do
          drop
          sequence (flowItems isOld fuel true)
        | some .flowMappingStart => do
          drop
          mapping (flowEntries isOld fuel true)
        | some .blockEntry =>
          if place == .mappingPart then sequence (indentlessItems isOld fuel) else nothing
        | some .blockSequenceStart =>
          if place == .flow then nothing
          else do
            drop
            sequence (blockItems isOld fuel)
        | some .blockMappingStart =>
          if place == .flow then nothing
          else do
            drop
            mapping (blockEntries isOld fuel)
        | _ => nothing
      define id content

/-- The items of a block sequence up to its end. -/
def blockItems (isOld : Bool) : Nat → Read (List Nat)
  | 0 => fail
  | fuel + 1 => do
    if ← accept .blockEntry then
      let item ← if ← ends isBlockSequenceEnd then empty else node isOld fuel .block
      let more ← blockItems isOld fuel
      pure (item :: more)
    else
      expect .blockEnd
      pure []

/-- The entries of a sequence that is not indented in its mapping. -/
def indentlessItems (isOld : Bool) : Nat → Read (List Nat)
  | 0 => fail
  | fuel + 1 => do
    if ← accept .blockEntry then
      let item ← if ← ends isIndentlessEnd then empty else node isOld fuel .block
      let more ← indentlessItems isOld fuel
      pure (item :: more)
    else pure []

/-- The entries of a block mapping up to its end; a missing key or value is empty. -/
def blockEntries (isOld : Bool) : Nat → Read (List (Nat × Nat))
  | 0 => fail
  | fuel + 1 => do
    let hasKey ← accept .key
    let hasValue ← nextIs (· == .value)
    if hasKey || (!isOld && hasValue) then
      let key ←
        if hasKey then do
          if ← ends isBlockMappingEnd then empty else node isOld fuel .mappingPart
        else empty
      let value ←
        if ← accept .value then do
          if ← ends isBlockMappingEnd then empty else node isOld fuel .mappingPart
        else empty
      let more ← blockEntries isOld fuel
      pure ((key, value) :: more)
    else
      expect .blockEnd
      pure []

/-- The items of a flow sequence up to its end. A key makes a mapping of one entry. -/
def flowItems (isOld : Bool) : Nat → Bool → Read (List Nat)
  | 0, _ => fail
  | fuel + 1, isFirst => do
    if ← accept .flowSequenceEnd then pure []
    else
      if !isFirst then expect .flowEntry
      if ← accept .key then
        let key ←
          if ← ends fun t => t == .value || isFlowSequenceEnd t then empty
          else node isOld fuel .flow
        let value ←
          if ← accept .value then do
            if ← ends isFlowSequenceEnd then empty else node isOld fuel .flow
          else empty
        let more ← flowItems isOld fuel false
        let item ← add ⟨.mapping, .mapping #[(key, value)]⟩
        pure (item :: more)
      else if ← accept .flowSequenceEnd then pure []
      else
        let item ← node isOld fuel .flow
        let more ← flowItems isOld fuel false
        pure (item :: more)

/-- The entries of a flow mapping up to its end. A key without a value has an empty one. -/
def flowEntries (isOld : Bool) : Nat → Bool → Read (List (Nat × Nat))
  | 0, _ => fail
  | fuel + 1, isFirst => do
    if ← accept .flowMappingEnd then pure []
    else
      if !isFirst then expect .flowEntry
      let hasKey ← accept .key
      let hasValue ← nextIs (· == .value)
      if hasKey || (!isOld && hasValue) then
        let key ←
          if hasKey then do
            if ← ends fun t => t == .value || isFlowMappingEnd t then empty
            else node isOld fuel .flow
          else empty
        let value ←
          if ← accept .value then do
            if ← ends isFlowMappingEnd then empty else node isOld fuel .flow
          else empty
        let more ← flowEntries isOld fuel false
        pure ((key, value) :: more)
      else if ← accept .flowMappingEnd then pure []
      else
        let key ← node isOld fuel .flow
        let value ← empty
        let more ← flowEntries isOld fuel false
        pure ((key, value) :: more)

end

/-- The handles that need no directive. -/
def defaultHandles : List (List Char × List Char) :=
  [(['!'], ['!']), (['!', '!'], Tag.standardStart)]

/-- The directives in front of a document: at most one version, 1.1 or 1.2, and no handle twice. -/
def directives (hasVersion : Bool) (handles : List (List Char × List Char)) :
    List Token → Option (List (List Char × List Char) × List Token)
  | .versionDirective major minor :: rest =>
    if hasVersion || major != 1 || (minor != 1 && minor != 2) then none
    else directives true handles rest
  | .tagDirective handle expansion :: rest =>
    if (handles.lookup handle).isSome then none
    else directives hasVersion ((handle, expansion) :: handles) rest
  | .otherDirective :: rest => directives hasVersion handles rest
  | rest => some (handles ++ defaultHandles, rest)

/-- The version that the last directive among some tokens names; 1.2 without one. -/
def versionOf (tokens : List Token) : Nat × Nat :=
  tokens.foldl (fun v t => match t with | .versionDirective a b => (a, b) | _ => v) (1, 2)

def isDocumentBoundary : Token → Bool
  | .versionDirective _ _ | .tagDirective _ _ | .otherDirective | .documentStart
  | .documentEnd => true
  | _ => false

/-- The content of a document; one that starts with a mark may be empty. -/
def content (isOld isMarked : Bool) (fuel : Nat) : Read Nat := do
  if isMarked && (← ends isDocumentBoundary) then empty else node isOld fuel .block

/-- What may follow the only document: its end marks. After one, another mark would start a
further document. -/
def isStreamEnd (isOld : Bool) : List Token → Bool
  | [] => true
  | [.documentEnd] => true
  | .documentEnd :: rest => isOld && rest.all (· == .documentEnd)
  | _ => false

/-- What stands in front of the content of the first document: the tag handles, whether a mark
starts it, and the tokens of the content. None if the directives are wrong or a mark is missing. -/
def opening? (tokens : List Token) :
    Option (List (List Char × List Char) × Bool × List Token) :=
  match tokens with
  | .versionDirective _ _ :: _ | .tagDirective _ _ :: _ | .otherDirective :: _
  | .documentStart :: _ =>
    match directives false [] tokens with
    | some (handles, .documentStart :: rest) => some (handles, true, rest)
    | _ => none
  | tokens => some (defaultHandles, false, tokens)

end Read

/-- The only document of a stream; none of an empty one. -/
def Document.ofTokens? (tokens : List Token) : Option (Option Document) :=
  if tokens.isEmpty then some none
  else do
    let isOld := Read.versionOf tokens == (1, 1)
    let (handles, isMarked, rest) ← Read.opening? tokens
    let (root, s) ←
      (Read.content isOld isMarked (4 * tokens.length + 8)).run { tokens := rest, handles }
    if Read.isStreamEnd isOld s.tokens then some (some ⟨s.nodes, root, isOld⟩) else none

end CiVariables.Yaml
