import CiVariables.Text.Utf8
import CiVariables.Yaml.Lexer.Basic

/-!
# Directives, anchors and tags

The tokens that consist of an indicator and a name. A tag name may hold characters in the form of
percent signs with the digits of their bytes.
-/

namespace CiVariables.Yaml.Lex

open CiVariables Lexer

def isDigit (c : Char) : Bool := c.isDigit

def isHex (c : Char) : Bool :=
  c.isDigit || ('a' ≤ c && c ≤ 'f') || ('A' ≤ c && c ≤ 'F')

def hexValue (cs : List Char) : Nat :=
  cs.foldl (fun n c =>
    n * 16 + (if c.isDigit then c.toNat - 48 else if 'a' ≤ c then c.toNat - 87 else c.toNat - 55)) 0

def decimalValue (cs : List Char) : Nat := cs.foldl (fun n c => n * 10 + (c.toNat - 48)) 0

def number : Lex Nat := do
  let ds ← takeWhile isDigit
  require (!ds.isEmpty)
  pure (decimalValue ds)

/-- A letter, digit, dash or underscore. -/
def isWordChar (c : Char) : Bool := c.isAlphanum || c == '-' || c == '_'

/-- A tag handle: `!`, `!!` or `!word!`. -/
def tagHandle : Lex (List Char) := do
  require ((← peek) == '!')
  if (← peekAt 1) == ' ' then
    forward 1
    pure ['!']
  else
    forward 1
    let word ← takeWhile isWordChar
    require ((← peek) == '!')
    forward 1
    pure ('!' :: word ++ ['!'])

def isUriChar (version : Nat × Nat) (c : Char) : Bool :=
  c.isAlphanum || "-;/?:@&=+$,_.!~*'()[]".toList.contains c ||
    (c == '#' && version != (1, 1))

/-- Bytes written as percent signs with two digits each. -/
def escapedBytes : Nat → Lex (List UInt8)
  | 0 => pure []
  | fuel + 1 => do
    if (← peek) == '%' then
      forward 1
      let ds := (← get).rest.take 2
      require (ds.length == 2 && ds.all isHex)
      forward 2
      let more ← escapedBytes fuel
      pure (UInt8.ofNat (hexValue ds) :: more)
    else pure []

/-- The name of a tag; empty at its end. -/
def uriFrom : Nat → Lex (List Char)
  | 0 => pure []
  | fuel + 1 => do
    let s ← get
    if s.peek == '%' then
      let bytes ← escapedBytes s.rest.length
      match Utf8.decode bytes with
      | .ok cs =>
        let more ← uriFrom fuel
        pure (cs ++ more)
      | .error _ => fail
    else
      match ← takeWhile (isUriChar s.version) with
      | [] => pure []
      | cs =>
        let more ← uriFrom fuel
        pure (cs ++ more)

/-- The name of a tag, which is not empty. -/
def uri : Lex (List Char) := do
  let start := (← get).index
  let cs ← uriFrom (← get).rest.length
  require ((← get).index != start)
  pure cs

/-- A directive up to the end of its line. -/
def directive : Lex Token := do
  forward 1
  let name ← takeWhile fun c => c.isAlphanum || "-_:.".toList.contains c
  require (!name.isEmpty)
  require (isEndOrBlank (← peek))
  let token ←
    if name == "YAML".toList then do
      skipBlanks
      let major ← number
      require ((← peek) == '.')
      forward 1
      let minor ← number
      require (isEndOrBlank (← peek))
      modify fun s => { s with version := (major, minor) }
      pure (Token.versionDirective major minor)
    else if name == "TAG".toList then do
      skipBlanks
      let handle ← tagHandle
      require ((← peek) == ' ')
      skipBlanks
      let expansion ← uri
      require (isEndOrBlank (← peek))
      pure (Token.tagDirective handle expansion)
    else do
      let _ ← takeWhile fun c => !isEnd c
      pure Token.otherDirective
  skipIgnoredLine
  pure token

def isAnchorChar (c : Char) : Bool :=
  let n := c.toNat
  !",[]\x7b\x7d".toList.contains c &&
    ((0x21 ≤ n && n ≤ 0x7E) || (0xA0 ≤ n && n ≤ 0xD7FF) ||
      (0xE000 ≤ n && n ≤ 0xFFFD && n != 0xFEFF) || 0x10000 ≤ n)

/-- The name of an anchor or alias after its indicator. -/
def anchorName : Lex (List Char) := do
  forward 1
  let name ← takeWhile isAnchorChar
  require (!name.isEmpty)
  let c ← peek
  require (c == endMark || isBreak c || " \t?:,[]\x7b\x7d%@\x60".toList.contains c)
  pure name

/-- A tag: verbatim, with a handle, or alone. The handle is a single or a double mark unless a
further mark ends a handle with a name. -/
def tag : Lex Token := do
  let isDouble := (← peekAt 1) == '!'
  if isDouble then forward 1
  let c ← peekAt 1
  let token ←
    if c == '<' then do
      forward 2
      let name ← uri
      require ((← peek) == '>')
      forward 1
      pure (Token.tag none name)
    else if isEndOrSpace c then do
      forward 1
      pure (Token.tag none (if isDouble then ['!', '!'] else ['!']))
    else do
      let ahead := ((← get).rest.drop 1).takeWhile fun c => !isEndOrBlank c
      let handle ←
        if ahead.contains '!' then tagHandle
        else do
          forward 1
          pure (if isDouble then ['!', '!'] else ['!'])
      let suffix ← uri
      pure (Token.tag (some handle) suffix)
  require (isEndOrBlank (← peek))
  pure token

end CiVariables.Yaml.Lex
