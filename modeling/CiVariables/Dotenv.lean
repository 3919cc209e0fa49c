import CiVariables.Config.Settings
import CiVariables.Remote.Session
import CiVariables.Text.Utf8

/-!
# `.env` files

A file of lines `NAME=value`. A value may stand in single or double quotes, run over several lines
in them, and use escapes; unquoted values end before a blank and a `#`. A statement that cannot be
read is skipped to the end of its line and reported. Afterwards `${NAME}` and `${NAME:-default}` in
the values are replaced by the variables above them and those of the process environment.
-/

namespace CiVariables.Dotenv

open CiVariables
open CiVariables.Text (isSpacing startsWith)

/-- A step of reading: what was read and what is left, or where reading stopped. -/
abbrev Step (α : Type) := Except (List Char) (α × List Char)

/-- A space that does not end the line. -/
def isInlineSpace (c : Char) : Bool := isSpacing c && c != '\n'

def skipInline (cs : List Char) : List Char := cs.dropWhile isInlineSpace

/-- Drops the word `export` and the space after it. -/
def skipExport (cs : List Char) : List Char :=
  if startsWith cs "export".toList then
    match cs.drop 6 with
    | c :: rest => if isInlineSpace c then skipInline rest else cs
    | [] => cs
  else cs

def isNameChar (c : Char) : Bool := c != '=' && c != '#' && !isSpacing c

/-- The name of a statement; a comment has none. -/
def readName (cs : List Char) : Step (Option String) :=
  match cs with
  | '#' :: _ => .ok (none, cs)
  | '\x27' :: rest =>
    match rest.takeWhile (· != '\x27'), rest.dropWhile (· != '\x27') with
    | c :: name, _ :: rest => .ok (some (String.ofList (c :: name)), rest)
    | _, _ => .error cs
  | cs =>
    match cs.takeWhile isNameChar with
    | [] => .error cs
    | name => .ok (some (String.ofList name), cs.dropWhile isNameChar)

/-- The text up to the closing quote. A backslash takes the character after it along, which has to
be on the same line. -/
def quotedText? (quote : Char) : List Char → Option (List Char × List Char)
  | [] => none
  | '\\' :: c :: rest =>
    if c = '\n' then none
    else (quotedText? quote rest).map fun (t, rest) => ('\\' :: c :: t, rest)
  | c :: rest =>
    if c = quote then some ([], rest)
    else if c = '\\' then none
    else (quotedText? quote rest).map fun (t, rest) => (c :: t, rest)

def singleEscape? (c : Char) : Option Char :=
  if c = '\\' ∨ c = '\x27' then some c else none

def doubleEscape? (c : Char) : Option Char :=
  match c with
  | '\\' | '\x27' | '"' => some c
  | 'a' => some '\x07'
  | 'b' => some '\x08'
  | 'f' => some '\x0c'
  | 'n' => some '\n'
  | 'r' => some '\r'
  | 't' => some '\t'
  | 'v' => some '\x0b'
  | _ => none

/-- Replaces escapes; a backslash before anything else stays. -/
def unescape (escape? : Char → Option Char) : List Char → List Char
  | [] => []
  | [c] => [c]
  | c :: d :: rest =>
    if c = '\\' then
      match escape? d with
      | some e => e :: unescape escape? rest
      | none => c :: unescape escape? (d :: rest)
    else c :: unescape escape? (d :: rest)

/-- The text before the first space that is followed by `#`. -/
def beforeComment : List Char → List Char
  | [] => []
  | c :: rest =>
    if isSpacing c && (rest.dropWhile isSpacing).head? == some '#' then []
    else c :: beforeComment rest

/-- A value at the front, which may have spaces before it. -/
def readValue (cs : List Char) : Step String :=
  let inQuotes (quote : Char) (escape? : Char → Option Char) (start : List Char) : Step String :=
    match quotedText? quote (start.drop 1) with
    | some (t, rest) => .ok (String.ofList (unescape escape? t), rest)
    | none => .error start
  match skipInline cs with
  | start@('\x27' :: _) => inQuotes '\x27' singleEscape? start
  | start@('"' :: _) => inQuotes '"' doubleEscape? start
  | _ =>
    let line := beforeComment (cs.takeWhile (· != '\n'))
    .ok (String.ofList (CiVariables.Text.trimBoth isSpacing line), cs.dropWhile (· != '\n'))

/-- What may stand between a statement and the end of its line. -/
def readLineEnd (cs : List Char) : Step Unit :=
  let cs :=
    match skipInline cs with
    | '#' :: rest => rest.dropWhile (· != '\n')
    | _ => cs
  match skipInline cs with
  | [] => .ok ((), [])
  | '\n' :: rest => .ok ((), rest)
  | _ => .error cs

/-- The value after an equals sign; a name alone has none. -/
def readAssignment (cs : List Char) : Step (Option String) :=
  match skipInline cs with
  | '=' :: rest => (readValue rest).map fun (v, rest) => (some v, rest)
  | rest => .ok (none, rest)

/-- A name with its value, if it has one, up to the end of the line. -/
def readStatement (cs : List Char) : Step (Option (String × Option String)) :=
  match readName (skipExport cs) with
  | .error stop => .error stop
  | .ok (name, rest) =>
    match readAssignment rest with
    | .error stop => .error stop
    | .ok (value, rest) => (readLineEnd rest).map fun (_, rest) => (name.map (·, value), rest)

/-- What is left after the current line. -/
def skipLine (cs : List Char) : List Char := (cs.dropWhile (· != '\n')).drop 1

/-- How many lines end in a text. -/
def countLines (cs : List Char) : Nat := cs.countP (· == '\n')

/-- The statements of a file, and the numbers of the lines at which unreadable ones start. -/
structure Statements where
  bindings : List (String × Option String) := []
  badLines : List Nat := []
  deriving Inhabited

/-- Reads statement after statement. The fuel bounds their number. -/
def statementsFrom (total : Nat) : Nat → List Char → Statements
  | 0, _ => {}
  | _, [] => {}
  | fuel + 1, cs =>
    match cs.dropWhile isSpacing with
    | [] => {}
    | start =>
      match readStatement start with
      | .ok (binding, rest) =>
        let more := statementsFrom total fuel rest
        { more with bindings := binding.toList ++ more.bindings }
      | .error rest =>
        let more := statementsFrom total fuel (skipLine rest)
        { more with badLines := (total - countLines cs + 1) :: more.badLines }

/-- The statements of a file, with the lines that cannot be read. -/
def statements (cs : List Char) : Statements :=
  statementsFrom (countLines cs) (cs.length + 1) cs

/-- A reference to a variable at the front: its name, its default and what is left. -/
def readReference? (cs : List Char) : Option (String × Option String × List Char) :=
  match cs with
  | '$' :: '\x7b' :: rest =>
    let name := rest.takeWhile fun c => c != '\x7d' && c != ':'
    match rest.dropWhile fun c => c != '\x7d' && c != ':' with
    | '\x7d' :: rest => some (String.ofList name, none, rest)
    | ':' :: '-' :: rest =>
      match rest.dropWhile (· != '\x7d') with
      | _ :: after =>
        some (String.ofList name, some (String.ofList (rest.takeWhile (· != '\x7d'))), after)
      | [] => none
    | _ => none
  | _ => none

/-- The value that a reference stands for: that of a variable above, else of the environment, else
the default. A variable without a value stands for nothing. -/
def referenceValue (env : Environment) (above : DotenvValues) (name : String)
    (default? : Option String) : String :=
  match above.lookup name with
  | some value => value.getD ""
  | none => (env.lookup name).getD (default?.getD "")

/-- Replaces the references in a value. The fuel bounds its length. -/
def expandFrom (env : Environment) (above : DotenvValues) : Nat → List Char → List Char
  | 0, _ => []
  | _, [] => []
  | fuel + 1, c :: rest =>
    match readReference? (c :: rest) with
    | some (name, default?, after) =>
      (referenceValue env above name default?).toList ++ expandFrom env above fuel after
    | none => c :: expandFrom env above fuel rest

/-- A value with its references to variables replaced. -/
def expand (env : Environment) (above : DotenvValues) (value : String) : String :=
  String.ofList (expandFrom env above value.length value.toList)

/-- Overwrites a variable in place, or adds it at the end. -/
def assign (values : DotenvValues) (name : String) (value : Option String) : DotenvValues :=
  match values with
  | [] => [(name, value)]
  | (k, v) :: rest => if k = name then (k, value) :: rest else (k, v) :: assign rest name value

/-- The variables of a file: the last value of a name counts. -/
def resolve (env : Environment) (bindings : List (String × Option String)) : DotenvValues :=
  bindings.foldl (fun values (name, value) =>
    assign values name (value.map (expand env values))) []

/-- The log line about a statement that could not be read. -/
def warning (line : Nat) : LogLine :=
  ⟨.warning, .dotenv,
    "python-dotenv could not parse statement starting at line " ++ toString line⟩

/-- The variables of a `.env` file and the log lines about it. A byte order mark is dropped, and so
is one at the start of the text that is left. -/
def read (env : Environment) (bytes : List UInt8) : Except Failure (DotenvValues × List LogLine) :=
  match Utf8.decode (Utf8.dropMark bytes) with
  | .error e => .error (.undecodable e)
  | .ok cs =>
    let text := match cs with | '\uFEFF' :: rest => rest | cs => cs
    let s := statements (Utf8.unifyNewlines text)
    .ok (resolve env s.bindings, s.badLines.map warning)

end CiVariables.Dotenv
