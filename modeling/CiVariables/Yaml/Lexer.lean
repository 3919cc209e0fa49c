import CiVariables.Yaml.Lexer.Scalar

/-!
# Cutting a YAML stream into tokens

Where a possible key is followed by a colon, the key token is put in front of it, and with it the
start of a block mapping if the column is deeper than the mapping around it. Everything that the
grammar of tokens does not allow ends in `none`.
-/

namespace CiVariables.Yaml

open CiVariables

namespace Lex

open Lexer

/-- Skips blanks, comments and line ends up to the next token. -/
def skipToToken : Nat → Lex Unit
  | 0 => pure ()
  | fuel + 1 => do
    let flow := (← get).inFlow
    let _ ← takeWhile fun c => c == ' ' || (flow && c == '\t')
    skipComment
    match ← lineBreak? with
    | some _ =>
      if !(← get).inFlow then allowKey true
      skipToToken fuel
    | none => pure ()

/-- A token that may turn out to be a key. -/
def keyed (token : Lex Token) : Lex Unit := do
  saveKey
  allowKey false
  emit (← token)

/-- The start of a flow collection, which may be a key. -/
def flowStart (kind : FlowKind) (token : Token) : Lex Unit := do
  saveKey
  modify fun s => { s with flow := kind :: s.flow }
  allowKey true
  forward 1
  emit token

/-- The end of a flow collection. -/
def flowEnd (token : Token) : Lex Unit := do
  dropKey
  modify fun s => { s with flow := s.flow.tail }
  allowKey false
  forward 1
  emit token

/-- A line that starts or ends a document, or a directive. -/
def documentLine (width : Nat) (token : Token) : Lex Unit := do
  unwindTo (-1)
  dropKey
  allowKey false
  forward width
  emit token

/-- An indicator that may open a block collection at its column. -/
def openBlock (start : Token) : Lex Unit := do
  let s ← get
  if !s.inFlow then
    require s.allowsKey
    if ← openIndent s.column then emit start

/-- The hyphen of an item of a block sequence. -/
def blockEntry : Lex Unit := do
  openBlock .blockSequenceStart
  allowKey true
  dropKey
  forward 1
  emit .blockEntry

/-- The question mark of a key. -/
def explicitKey : Lex Unit := do
  openBlock .blockMappingStart
  allowKey (!(← get).inFlow)
  dropKey
  forward 1
  emit .key

/-- The colon of a value. If a possible key stands before it, that becomes one. -/
def value : Lex Unit := do
  let s ← get
  let depth := s.flow.length
  match s.keys.lookup depth with
  | some k =>
    set { s with keys := s.keys.filter fun (d, _) => d != depth }
    let starts ← if s.inFlow then pure false else openIndent k.column
    modify fun s =>
      let tokens := s.tokens.insertIdxIfInBounds k.position .key
      { s with
        tokens :=
          if starts then tokens.insertIdxIfInBounds k.position .blockMappingStart else tokens }
    allowKey false
  | none =>
    openBlock .blockMappingStart
    allowKey (!(← get).inFlow)
    dropKey
  forward 1
  emit .value

/-- A colon at the front is the indicator of a value. What it takes depends on the collection
around it, and whether a possible key is waiting. -/
def isValue (s : Lexer) (waiting : Bool) : Bool :=
  let spaced := isEndOrSpace (s.peekAt 1)
  match s.flow with
  | [] => spaced
  | kind :: _ =>
    if s.version == (1, 1) then true
    else
      match kind with
      | .sequence => spaced
      | .mapping => if waiting && s.tokens.back? == some .value then spaced else true

/-- A plain scalar may start at the front. -/
def isPlain (s : Lexer) : Bool :=
  let c := s.peek
  let next := s.peekAt 1
  let spaced := isEndOrSpace next
  !(c == endMark || isBreak c || " \t-?:,[]\x7b\x7d#&*!|>'\"%@\x60".toList.contains c) ||
    (!spaced && (c == '-' || (!s.inFlow && (c == '?' || c == ':')))) ||
    (s.version != (1, 1) && c == ':' && s.inFlow && next != ' ' && next != '\t')

/-- Takes the next token; false at the end of the stream. -/
def next : Lex Bool := do
  dropStaleKeys
  let waiting := !(← get).keys.isEmpty
  skipToToken ((← get).rest.length + 1)
  dropStaleKeys
  unwindTo (← get).column
  let s ← get
  let c := s.peek
  let spaced := isEndOrSpace (s.peekAt 1)
  let isMark := s.column == 0 && isDocumentMark s.rest
  if s.rest.isEmpty then
    unwindTo (-1)
    dropKey
    pure false
  else do
    if c == '%' && s.column == 0 then
      unwindTo (-1)
      dropKey
      allowKey false
      emit (← directive)
    else if c == '-' && isMark then documentLine 3 .documentStart
    else if c == '.' && isMark then documentLine 3 .documentEnd
    else if c == '[' then flowStart .sequence .flowSequenceStart
    else if c == '\x7b' then flowStart .mapping .flowMappingStart
    else if c == ']' then flowEnd .flowSequenceEnd
    else if c == '\x7d' then flowEnd .flowMappingEnd
    else if c == ',' then
      allowKey true
      dropKey
      forward 1
      emit .flowEntry
    else if c == '-' && spaced then blockEntry
    else if c == '?' && (s.inFlow || spaced) then explicitKey
    else if c == ':' && isValue s waiting then value
    else if c == '*' then
      keyed do
        let name ← anchorName
        pure (.alias name)
    else if c == '&' then
      keyed do
        let name ← anchorName
        pure (.anchor name)
    else if c == '!' then keyed tag
    else if (c == '|' || c == '>') && !s.inFlow then
      allowKey true
      dropKey
      emit (← blockScalar (c == '>'))
    else if c == '\x27' || c == '"' then keyed (quotedScalar c)
    else if isPlain s then
      saveKey
      allowKey false
      emit (← plainScalar)
    else fail
    pure true

/-- Takes all tokens. -/
def all : Nat → Lex Unit
  | 0 => pure ()
  | fuel + 1 => do
    if ← next then all fuel

end Lex

/-- The tokens of a stream, unless it has none. -/
def tokens? (cs : List Char) : Option (List Token) :=
  match (Lex.all (cs.length + 2)).run { rest := cs } with
  | some (_, s) => some s.tokens.toList
  | none => none

end CiVariables.Yaml
