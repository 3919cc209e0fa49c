import CiVariables.Yaml.Token

/-!
# The lexer of a YAML stream

A lexer goes through the characters once. A scalar, alias or collection that starts a line, or
follows an indicator, may turn out to be a mapping key when a colon follows it on the same line and
within 1024 characters; the lexer remembers these places. It also knows the indentation of the block
collections that are open. A step that the grammar of tokens does not allow ends in `none`.
-/

namespace CiVariables.Yaml

open CiVariables

/-- The two sorts of flow collections. -/
inductive FlowKind where
  | sequence
  | mapping
  deriving DecidableEq, Inhabited

/-- A place that may turn out to be a mapping key. -/
structure PossibleKey where
  /-- The number of the token that is the key. -/
  position : Nat
  /-- It has to be one, since it stands at the indentation of a block mapping. -/
  isRequired : Bool
  index : Nat
  line : Nat
  column : Nat
  deriving Inhabited

/-- What is left of the stream, and what the tokens so far demand of it. -/
structure Lexer where
  rest : List Char
  index : Nat := 0
  line : Nat := 0
  column : Nat := 0
  tokens : Array Token := #[]
  /-- The open flow collections, innermost first. -/
  flow : List FlowKind := []
  indent : Int := -1
  indents : List Int := []
  allowsKey : Bool := true
  /-- Possible keys by the number of flow collections around them. -/
  keys : List (Nat × PossibleKey) := []
  version : Nat × Nat := (1, 2)
  deriving Inhabited

/-- A step of a lexer, which may fail. -/
abbrev Lex (α : Type) := StateT Lexer Option α

namespace Lexer

def endMark : Char := '\x00'

def isBreak (c : Char) : Bool :=
  c == '\n' || c == '\r' || c == '\x85' || c == '\u2028' || c == '\u2029'

/-- A line end, or the end of the stream. -/
def isEnd (c : Char) : Bool := isBreak c || c == endMark

/-- A line end, the end of the stream, a blank or a tab. -/
def isEndOrSpace (c : Char) : Bool := isEnd c || c == ' ' || c == '\t'

/-- A character that may follow a name: a line end, the end of the stream or a blank. -/
def isEndOrBlank (c : Char) : Bool := isEnd c || c == ' '

def peekAt (s : Lexer) (n : Nat) : Char := (s.rest.drop n).headD endMark

def peek (s : Lexer) : Char := s.rest.headD endMark

/-- The lexer after one character. Only line feeds and carriage returns start a new line of the
grid of lines and columns; the other line ends take a column of their own. -/
def advance (s : Lexer) : Lexer :=
  match s.rest with
  | [] => s
  | c :: rest =>
    let endsLine := c == '\n' || (c == '\r' && rest.headD endMark != '\n')
    { s with
      rest := rest
      index := s.index + 1
      line := if endsLine then s.line + 1 else s.line
      column := if endsLine then 0 else if c == '\uFEFF' then s.column else s.column + 1 }

/-- The lexer after a number of characters. -/
def advanceBy : Nat → Lexer → Lexer
  | 0, s => s
  | n + 1, s => advanceBy n s.advance

def inFlow (s : Lexer) : Bool := !s.flow.isEmpty

end Lexer

namespace Lex

open Lexer

def fail {α : Type} : Lex α := fun _ => none

/-- Fails unless a condition holds. -/
def require (condition : Bool) : Lex Unit := if condition then pure () else fail

def peek : Lex Char := do return (← get).peek

def peekAt (n : Nat) : Lex Char := do return (← get).peekAt n

def forward (n : Nat) : Lex Unit := modify (advanceBy n)

/-- Takes characters as long as they pass a test. -/
def takeWhile (test : Char → Bool) : Lex (List Char) := do
  let taken := (← get).rest.takeWhile test
  forward taken.length
  pure taken

def skipBlanks : Lex Unit := do
  let _ ← takeWhile (· == ' ')

def emit (t : Token) : Lex Unit := modify fun s => { s with tokens := s.tokens.push t }

def allowKey (allowed : Bool) : Lex Unit := modify fun s => { s with allowsKey := allowed }

/-- Takes a line end; every sort but the two separators reads as a line feed. -/
def lineBreak? : Lex (Option Char) := do
  let s ← get
  let c := s.peek
  if c == '\r' || c == '\n' || c == '\x85' then
    forward (if c == '\r' && s.peekAt 1 == '\n' then 2 else 1)
    pure (some '\n')
  else if c == '\u2028' || c == '\u2029' then
    forward 1
    pure (some c)
  else pure none

def skipComment : Lex Unit := do
  if (← peek) == '#' then
    let _ ← takeWhile fun c => !isEnd c

/-- Skips blanks and a comment; then the line has to end. -/
def skipIgnoredLine : Lex Unit := do
  skipBlanks
  skipComment
  require (isEnd (← peek))
  let _ ← lineBreak?

/-! ## Possible keys -/

/-- Forgets possible keys that are on an earlier line or too far back. -/
def dropStaleKeys : Lex Unit := do
  let s ← get
  let isStale (k : PossibleKey) : Bool := k.line != s.line || decide (s.index - k.index > 1024)
  require (!s.keys.any fun (_, k) => isStale k && k.isRequired)
  set { s with keys := s.keys.filter fun (_, k) => !isStale k }

/-- Forgets the possible key of this depth, which may not be one that has to become a key. -/
def dropKey : Lex Unit := do
  let s ← get
  let depth := s.flow.length
  require (!s.keys.any fun (d, k) => d == depth && k.isRequired)
  set { s with keys := s.keys.filter fun (d, _) => d != depth }

/-- Notes that the next token may turn out to be a key. -/
def saveKey : Lex Unit := do
  let s ← get
  if s.allowsKey then
    dropKey
    let k : PossibleKey :=
      { position := s.tokens.size
        isRequired := !s.inFlow && s.indent == (s.column : Int)
        index := s.index, line := s.line, column := s.column }
    modify fun s => { s with keys := (s.flow.length, k) :: s.keys }

/-! ## Indentation -/

/-- Closes the block collections that are deeper than a column. -/
def unwindTo (column : Int) : Lex Unit := do
  let s ← get
  if s.inFlow then pure ()
  else
    let rec close : List Int → Lexer → Lexer
      | [], s => s
      | outer :: more, s =>
        if s.indent > column then
          close more { s with indent := outer, indents := more, tokens := s.tokens.push .blockEnd }
        else s
    set (close s.indents s)

/-- Opens a block collection at a column if it is deeper than the one around it. -/
def openIndent (column : Nat) : Lex Bool := do
  let s ← get
  if s.indent < (column : Int) then
    set { s with indents := s.indent :: s.indents, indent := (column : Int) }
    pure true
  else pure false

end Lex

end CiVariables.Yaml
