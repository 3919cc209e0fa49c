import CiVariables.Json.Basic
import CiVariables.Text.Surrogate

/-!
# Reading JSON text

A reader takes the characters that are left and returns a value with what is left after it.
`Json.read?` wants one value and nothing but blanks around it. It refuses raw control characters in
strings, integers longer than `ReadLimits.digits`, a container with something in it deeper than
`ReadLimits.depth` and, unless `ReadLimits.halves` allows them, escapes of unpaired surrogates; the
words `NaN` and `Infinity` are numbers.
-/

namespace CiVariables

/-- What a reader of JSON refuses although the text is well formed. -/
structure ReadLimits where
  /-- The deepest level at which a container may hold something. -/
  depth : Nat
  /-- The longest integer, in digits. -/
  digits : Nat
  /-- An escape may name half of a surrogate pair. -/
  halves : Bool := false

namespace Json

/-- The four characters that may stand between tokens. -/
def isBlank (c : Char) : Bool := c == ' ' || c == '\n' || c == '\t' || c == '\r'

/-- What is left after the blanks in front. -/
def skipBlanks (cs : List Char) : List Char := cs.dropWhile isBlank

def hexValue? (c : Char) : Option Nat :=
  if '0' ≤ c ∧ c ≤ '9' then some (c.toNat - 48)
  else if 'a' ≤ c ∧ c ≤ 'f' then some (c.toNat - 87)
  else if 'A' ≤ c ∧ c ≤ 'F' then some (c.toNat - 55)
  else none

/-- Reads the four hexadecimal digits of an escape. -/
def readHex4? : List Char → Option (Nat × List Char)
  | a :: b :: c :: d :: rest => do
    let a ← hexValue? a
    let b ← hexValue? b
    let c ← hexValue? c
    let d ← hexValue? d
    some (a * 4096 + b * 256 + c * 16 + d, rest)
  | _ => none

/-- What follows `\u`: one unit, or two that form a surrogate pair. -/
def readUnits? (limits : ReadLimits) (cs : List Char) : Option (Char × List Char) := do
  let (u, rest) ← readHex4? cs
  let alone := if limits.halves then some (CiVariables.Text.charOf u, rest) else none
  if 0xD800 ≤ u ∧ u < 0xDC00 then
    match rest with
    | '\\' :: 'u' :: after =>
      match readHex4? after with
      | some (v, after) =>
        if 0xDC00 ≤ v ∧ v < 0xE000 then
          some (Char.ofNat (0x10000 + (u - 0xD800) * 1024 + (v - 0xDC00)), after)
        else alone
      | none => none
    | _ => alone
  else if 0xDC00 ≤ u ∧ u < 0xE000 then alone
  else some (Char.ofNat u, rest)

/-- The character after a backslash, and what is left. -/
def readEscape? (limits : ReadLimits) : List Char → Option (Char × List Char)
  | '"' :: rest => some ('"', rest)
  | '\\' :: rest => some ('\\', rest)
  | '/' :: rest => some ('/', rest)
  | 'b' :: rest => some ('\x08', rest)
  | 'f' :: rest => some ('\x0c', rest)
  | 'n' :: rest => some ('\n', rest)
  | 'r' :: rest => some ('\r', rest)
  | 't' :: rest => some ('\t', rest)
  | 'u' :: rest => readUnits? limits rest
  | _ => none

/-- The rest of a string whose opening quote has been read, its characters collected in reverse.
The fuel bounds the number of characters. -/
def readStringBody? (limits : ReadLimits) :
    Nat → List Char → List Char → Option (String × List Char)
  | 0, _, _ => none
  | _, [], _ => none
  | fuel + 1, c :: rest, acc =>
    if c = '"' then some (String.ofList acc.reverse, rest)
    else if c = '\\' then
      match readEscape? limits rest with
      | some (d, rest) => readStringBody? limits fuel rest (d :: acc)
      | none => none
    else if c.toNat < 32 then none
    else readStringBody? limits fuel rest (c :: acc)

def readString? (limits : ReadLimits) (cs : List Char) : Option (String × List Char) :=
  readStringBody? limits (cs.length + 1) cs []

def digitsValue (ds : List Char) : Nat := ds.foldl (fun n c => n * 10 + (c.toNat - 48)) 0

/-- A fraction: a point and at least one digit. Without a point there is none. -/
def readFraction? : List Char → Option (List Char × List Char)
  | '.' :: rest =>
    match rest.takeWhile Char.isDigit with
    | [] => none
    | ds => some (ds, rest.dropWhile Char.isDigit)
  | cs => some ([], cs)

def readExponentDigits? (negative : Bool) (cs : List Char) : Option (Option Int × List Char) :=
  match cs.takeWhile Char.isDigit with
  | [] => none
  | ds =>
    let n : Int := digitsValue ds
    some (some (if negative then -n else n), cs.dropWhile Char.isDigit)

/-- An exponent with its mark, if there is one. -/
def readExponent? : List Char → Option (Option Int × List Char)
  | 'e' :: '-' :: rest | 'E' :: '-' :: rest => readExponentDigits? true rest
  | 'e' :: '+' :: rest | 'E' :: '+' :: rest => readExponentDigits? false rest
  | 'e' :: rest | 'E' :: rest => readExponentDigits? false rest
  | cs => some (none, cs)

/-- A number whose sign has been read. Leading zeros are refused. -/
def readMagnitude? (limits : ReadLimits) (negative : Bool) (cs : List Char) :
    Option (Json × List Char) := do
  let whole := cs.takeWhile Char.isDigit
  let rest := cs.dropWhile Char.isDigit
  if whole.isEmpty then none
  if whole.head? = some '0' ∧ whole.length ≠ 1 then none
  let (fraction, rest) ← readFraction? rest
  let (exponent, rest) ← readExponent? rest
  if fraction.isEmpty ∧ exponent.isNone then
    if whole.length > limits.digits then none
    let n : Int := digitsValue whole
    some (.int (if negative then -n else n), rest)
  else
    let scale := exponent.getD 0 - fraction.length
    some (.float (Double.ofDecimal negative (digitsValue (whole ++ fraction)) scale), rest)

/-- What is left after a fixed word. -/
def dropWord? : List Char → List Char → Option (List Char)
  | [], cs => some cs
  | w :: ws, c :: cs => if w = c then dropWord? ws cs else none
  | _ :: _, [] => none

mutual

/-- A value at the front of the text, at a nesting level. -/
def readValue? (limits : ReadLimits) : Nat → Nat → List Char → Option (Json × List Char)
  | 0, _, _ => none
  | fuel + 1, depth, cs =>
    match cs with
    | '"' :: rest => (readString? limits rest).map fun (s, rest) => (.str s, rest)
    | '[' :: rest =>
      match skipBlanks rest with
      | ']' :: rest => some (.arr [], rest)
      | rest =>
        if depth ≥ limits.depth then none
        else (readItems? limits fuel (depth + 1) rest).map fun (js, rest) => (.arr js, rest)
    | '\x7b' :: rest =>
      match skipBlanks rest with
      | '\x7d' :: rest => some (.obj [], rest)
      | rest =>
        if depth ≥ limits.depth then none
        else (readFields? limits fuel (depth + 1) rest).map fun (fs, rest) =>
          (.obj (Fields.dedup fs), rest)
    | 't' :: rest => (dropWord? "rue".toList rest).map fun rest => (.bool true, rest)
    | 'f' :: rest => (dropWord? "alse".toList rest).map fun rest => (.bool false, rest)
    | 'n' :: rest => (dropWord? "ull".toList rest).map fun rest => (.null, rest)
    | 'N' :: rest => (dropWord? "aN".toList rest).map fun rest => (.float .nan, rest)
    | 'I' :: rest =>
      (dropWord? "nfinity".toList rest).map fun rest => (.float (.infinity false), rest)
    | '-' :: 'I' :: rest =>
      (dropWord? "nfinity".toList rest).map fun rest => (.float (.infinity true), rest)
    | '-' :: rest => readMagnitude? limits true rest
    | cs => readMagnitude? limits false cs

/-- The items of an array up to its closing bracket; at least one. -/
def readItems? (limits : ReadLimits) : Nat → Nat → List Char → Option (List Json × List Char)
  | 0, _, _ => none
  | fuel + 1, depth, cs =>
    match readValue? limits fuel depth cs with
    | none => none
    | some (j, rest) =>
      match skipBlanks rest with
      | ']' :: rest => some ([j], rest)
      | ',' :: rest =>
        (readItems? limits fuel depth (skipBlanks rest)).map fun (js, rest) => (j :: js, rest)
      | _ => none

/-- The members of an object up to its closing brace; at least one. -/
def readFields? (limits : ReadLimits) :
    Nat → Nat → List Char → Option (List (String × Json) × List Char)
  | 0, _, _ => none
  | fuel + 1, depth, cs =>
    match cs with
    | '"' :: rest =>
      match readString? limits rest with
      | none => none
      | some (k, rest) =>
        match skipBlanks rest with
        | ':' :: rest =>
          match readValue? limits fuel depth (skipBlanks rest) with
          | none => none
          | some (j, rest) =>
            match skipBlanks rest with
            | '\x7d' :: rest => some ([(k, j)], rest)
            | ',' :: rest =>
              (readFields? limits fuel depth (skipBlanks rest)).map fun (fs, rest) =>
                ((k, j) :: fs, rest)
            | _ => none
        | _ => none
    | _ => none

end

/-- Reads a text that is one value, with nothing but blanks around it. -/
def read? (limits : ReadLimits) (text : String) : Option Json :=
  let cs := text.toList
  match readValue? limits (2 * cs.length + 2) 0 (skipBlanks cs) with
  | some (j, rest) => if (skipBlanks rest).isEmpty then some j else none
  | none => none

end Json

end CiVariables
