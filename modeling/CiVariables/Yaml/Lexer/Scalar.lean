import CiVariables.Text.Surrogate
import CiVariables.Yaml.Lexer.Name

/-!
# Scalars in a stream

Block scalars keep or fold their lines, quoted scalars may hold escapes, and plain scalars end where
an indicator could start. In the latter two a single line end is a blank, and further ones stand
for themselves.
-/

namespace CiVariables.Yaml.Lex

open CiVariables Lexer

/-- Three dashes or points at the front, with a space or an end after them. -/
def isDocumentMark (cs : List Char) : Bool :=
  match cs with
  | a :: b :: c :: rest =>
    ((a == '-' && b == '-' && c == '-') || (a == '.' && b == '.' && c == '.')) &&
      isEndOrSpace (rest.headD endMark)
  | _ => false

/-- How the line ends after a block scalar are kept. -/
inductive Chomping where
  | clip
  | keep
  | strip
  deriving DecidableEq, Inhabited

/-- The chomping sign at the front, if there is one. -/
def chompingSign? : Lex (Option Chomping) := do
  let c ← peek
  if c == '+' then
    forward 1
    pure (some .keep)
  else if c == '-' then
    forward 1
    pure (some .strip)
  else pure none

/-- The indentation digit at the front, if there is one; it is not zero. -/
def indentDigit? : Lex (Option Nat) := do
  let c ← peek
  if c.isDigit then
    require (c != '0')
    forward 1
    pure (some (c.toNat - 48))
  else pure none

/-- The indicators after the sign of a block scalar, in either order. -/
def blockIndicators : Lex (Chomping × Option Nat) := do
  let result ←
    match ← chompingSign? with
    | some chomping => do
      let digit ← indentDigit?
      pure (chomping, digit)
    | none => do
      let digit ← indentDigit?
      if digit.isSome then
        let chomping ← chompingSign?
        pure (chomping.getD .clip, digit)
      else pure (.clip, none)
  require (isEndOrBlank (← peek))
  pure result

/-- Skips the blanks in front of a column. -/
def skipToColumn (column : Nat) : Lex Unit := do
  let s ← get
  forward ((s.rest.take (column - s.column)).takeWhile (· == ' ')).length

/-- The line ends of empty lines, each indented at most to a column. -/
def emptyLines (column : Nat) : Nat → Lex (List Char)
  | 0 => pure []
  | fuel + 1 => do
    skipToColumn column
    match ← lineBreak? with
    | some c =>
      let more ← emptyLines column fuel
      pure (c :: more)
    | none => pure []

/-- The empty lines in front of a block scalar whose indentation is not given, and the deepest
column among them and the first line; then the column of the first empty line. -/
def leadingLines (deepest : Nat) (first : Option Nat) :
    Nat → Lex (List Char × Nat × Option Nat)
  | 0 => pure ([], deepest, first)
  | fuel + 1 => do
    let s ← get
    if s.peek == ' ' then
      forward 1
      leadingLines (max deepest (s.column + 1)) first fuel
    else if isBreak s.peek then
      let c ← lineBreak?
      let (more, result) ← leadingLines deepest (first.or (some s.column)) fuel
      pure (c.toList ++ more, result)
    else pure ([], deepest, first)

/-- The lines of a block scalar at an indentation, after the given empty lines. -/
def blockLines (folded : Bool) (indent : Nat) (atTop : Bool) (chomping : Chomping) :
    Nat → List Char → Lex (List Char)
  | 0, _ => pure []
  | fuel + 1, breaks => do
    let s ← get
    if s.column == indent && s.peek != endMark then
      let startsBlank := s.peek == ' ' || s.peek == '\t'
      let line ← takeWhile fun c => !isEnd c
      let lineEnd := (← lineBreak?).toList
      let more ← emptyLines indent s.rest.length
      let s ← get
      let closing : List Char :=
        (if chomping == .strip then [] else lineEnd) ++ (if chomping == .keep then more else [])
      if atTop && s.column == 0 && isDocumentMark s.rest then
        pure (breaks ++ line ++ closing)
      else if s.column == indent && s.peek != endMark then
        let joint :=
          if folded && lineEnd == ['\n'] && !startsBlank && s.peek != ' ' && s.peek != '\t' then
            if more.isEmpty then [' '] else []
          else lineEnd
        let tail ← blockLines folded indent atTop chomping fuel more
        pure (breaks ++ line ++ joint ++ tail)
      else pure (breaks ++ line ++ closing)
    else pure (if chomping == .keep then breaks else [])

/-- A block scalar: its header, then the lines that are indented at least as far as the first. -/
def blockScalar (folded : Bool) : Lex Token := do
  forward 1
  let (chomping, digit?) ← blockIndicators
  skipIgnoredLine
  let s ← get
  let least := (s.indent + 1).toNat
  let (indent, breaks) ←
    match digit? with
    | none => do
      let (breaks, deepest, first) ← leadingLines 0 none s.rest.length
      require (match first with | some n => n == 0 || deepest ≤ n | none => true)
      pure (max least deepest, breaks)
    | some n => do
      let indent := max least 1 + n - 1
      let breaks ← emptyLines indent s.rest.length
      pure (indent, breaks)
  let text ← blockLines folded indent (least == 0) chomping s.rest.length breaks
  pure (.scalar text false)

/-- The character that an escape of one letter stands for. -/
def escapedChar? (c : Char) : Option Char :=
  match c with
  | '0' => some '\x00'
  | 'a' => some '\x07'
  | 'b' => some '\x08'
  | 't' => some '\t'
  | '\t' => some '\t'
  | 'n' => some '\n'
  | 'v' => some '\x0b'
  | 'f' => some '\x0c'
  | 'r' => some '\r'
  | 'e' => some '\x1b'
  | ' ' => some ' '
  | '"' => some '"'
  | '/' => some '/'
  | '\\' => some '\\'
  | 'N' => some '\x85'
  | '_' => some '\xa0'
  | 'L' => some '\u2028'
  | 'P' => some '\u2029'
  | _ => none

def escapeWidth? (c : Char) : Option Nat :=
  match c with
  | 'x' => some 2
  | 'u' => some 4
  | 'U' => some 8
  | _ => none

/-- The character of a numeric escape, which may be half of a surrogate pair. -/
def numericEscape (width : Nat) : Lex Char := do
  let ds := (← get).rest.take width
  require (ds.length == width && ds.all isHex)
  forward width
  let n := hexValue ds
  require (decide (n ≤ 0x10FFFF))
  pure (Text.charOf n)

/-- The line ends of empty lines inside a quoted scalar. A document mark may not start a line. -/
def quotedBreaks : Nat → Lex (List Char)
  | 0 => pure []
  | fuel + 1 => do
    require (!isDocumentMark (← get).rest)
    let _ ← takeWhile fun c => c == ' ' || c == '\t'
    match ← lineBreak? with
    | some c =>
      let more ← quotedBreaks fuel
      pure (c :: more)
    | none => pure []

/-- The line ends after a first one: a single line end is a blank. -/
def foldBreaks (first : Char) (more : List Char) : List Char :=
  if first != '\n' then first :: more else if more.isEmpty then [' '] else more

/-- The text of a quoted scalar up to its closing quote. -/
def quotedText (quote : Char) : Nat → Lex (List Char)
  | 0 => fail
  | fuel + 1 => do
    let s ← get
    let c := s.peek
    let isDouble := quote == '"'
    let before (text : List Char) : Lex (List Char) := do
      let more ← quotedText quote fuel
      pure (text ++ more)
    if s.rest.isEmpty then fail
    else if !isDouble && c == '\x27' && s.peekAt 1 == '\x27' then
      forward 2
      before ['\x27']
    else if c == quote then
      forward 1
      pure []
    else if isDouble && c == '\\' then
      forward 1
      let e ← peek
      match escapedChar? e with
      | some d =>
        forward 1
        before [d]
      | none =>
        match escapeWidth? e with
        | some width =>
          forward 1
          let d ← numericEscape width
          before [d]
        | none =>
          match ← lineBreak? with
          | some _ =>
            let more ← quotedBreaks s.rest.length
            before more
          | none => fail
    else if c == ' ' || c == '\t' || isBreak c then
      let spaces ← takeWhile fun c => c == ' ' || c == '\t'
      match ← lineBreak? with
      | some first =>
        let more ← quotedBreaks s.rest.length
        before (foldBreaks first more)
      | none => before spaces
    else
      forward 1
      before [c]

def quotedScalar (quote : Char) : Lex Token := do
  forward 1
  let text ← quotedText quote ((← get).rest.length + 1)
  pure (.scalar text false)

/-- The characters of a plain scalar up to a space or an indicator that ends it. -/
def plainRun (inFlow isOld : Bool) : List Char → List Char
  | [] => []
  | c :: rest =>
    let next := rest.headD endMark
    let stays :=
      (c == ':' && !isEndOrSpace next) || (c == '?' && !isOld) ||
        !(isEndOrSpace c || (!inFlow && c == ':') ||
          (inFlow && ",:?[]\x7b\x7d".toList.contains c))
    if stays then c :: plainRun inFlow isOld rest else []

/-- The empty lines inside a plain scalar; none if a document mark comes first. -/
def plainBreaks : Nat → Lex (Option (List Char))
  | 0 => pure (some [])
  | fuel + 1 => do
    skipBlanks
    match ← lineBreak? with
    | some c =>
      if isDocumentMark (← get).rest then pure none
      else return (← plainBreaks fuel).map (c :: ·)
    | none => pure (some [])

/-- The space between two runs of a plain scalar; empty where the scalar ends. -/
def plainSpace : Lex (List Char) := do
  let spaces ← takeWhile (· == ' ')
  match ← lineBreak? with
  | some first =>
    allowKey true
    if isDocumentMark (← get).rest then pure []
    else
      match ← plainBreaks ((← get).rest.length + 1) with
      | some more => pure (foldBreaks first more)
      | none => pure []
  | none => pure spaces

/-- The runs of a plain scalar, each after the space before it. -/
def plainText (indent : Int) : Nat → List Char → Lex (List Char)
  | 0, _ => pure []
  | fuel + 1, space => do
    let s ← get
    if s.peek == '#' then pure []
    else
      match plainRun s.inFlow (s.version == (1, 1)) s.rest with
      | [] => pure []
      | run =>
        allowKey false
        forward run.length
        let next ← plainSpace
        let s ← get
        if next.isEmpty || s.peek == '#' || (!s.inFlow && decide ((s.column : Int) < indent)) then
          pure (space ++ run)
        else
          let more ← plainText indent fuel next
          pure (space ++ run ++ more)

/-- A scalar without quotes. -/
def plainScalar : Lex Token := do
  let s ← get
  let text ← plainText (s.indent + 1) (s.rest.length + 1) []
  pure (.scalar text true)

end CiVariables.Yaml.Lex
