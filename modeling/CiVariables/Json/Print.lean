import CiVariables.Json.Basic
import CiVariables.Decimal.Shortest
import CiVariables.Text.Surrogate

/-!
# JSON text

`Json.compact` writes a value on one line, `Json.pretty` one member or item per line, indented by
two blanks a level, empty containers closed at once. Strings escape the quote, the backslash and the
control characters below the blank, halves of surrogate pairs, and nothing else. A number that is
not finite has no JSON text: plan files write null, and a caller may choose another spelling.
-/

namespace CiVariables

namespace Json

def hexDigit (n : Nat) : Char :=
  if n < 10 then Char.ofNat (48 + n) else Char.ofNat (87 + n)

/-- One character inside a quoted string. -/
def escapeChar (c : Char) : List Char :=
  if c = '"' then ['\\', '"']
  else if c = '\\' then ['\\', '\\']
  else if c = '\n' then ['\\', 'n']
  else if c = '\r' then ['\\', 'r']
  else if c = '\t' then ['\\', 't']
  else if c = '\x08' then ['\\', 'b']
  else if c = '\x0c' then ['\\', 'f']
  else if c.toNat < 32 then
    ['\\', 'u', '0', '0', hexDigit (c.toNat / 16), hexDigit (c.toNat % 16)]
  else if CiVariables.Text.isHalf c then
    let n := CiVariables.Text.codeOf c
    ['\\', 'u', hexDigit (n / 4096), hexDigit (n / 256 % 16), hexDigit (n / 16 % 16),
      hexDigit (n % 16)]
  else [c]

/-- A text in quotes, escaped. -/
def quote (s : String) : List Char := '"' :: s.toList.flatMap escapeChar ++ ['"']

def intText (n : Int) : List Char :=
  if n < 0 then '-' :: Nat.toDigits 10 n.natAbs else Nat.toDigits 10 n.natAbs

/-- A floating-point number; one that is not finite is null. -/
def floatText (x : Double) : List Char :=
  if x.isFinite then (DecimalStyle.compact.ofFinite x).toList else "null".toList

/-- A line end and the indentation of the next line. -/
def lineBreak (depth : Nat) : List Char := '\n' :: List.replicate (2 * depth) ' '

mutual

def prettyAt (depth : Nat) : Json → List Char
  | .null => "null".toList
  | .bool true => "true".toList
  | .bool false => "false".toList
  | .int n => intText n
  | .float x => floatText x
  | .str s => quote s
  | .arr [] => ['[', ']']
  | .arr (j :: rest) =>
    '[' :: lineBreak (depth + 1) ++ prettyAt (depth + 1) j ++ prettyItems depth rest
  | .obj [] => ['\x7b', '\x7d']
  | .obj ((k, j) :: rest) =>
    '\x7b' :: lineBreak (depth + 1) ++ quote k ++ ':' :: ' ' :: prettyAt (depth + 1) j
      ++ prettyFields depth rest

/-- The items after the first one, and the closing bracket. -/
def prettyItems (depth : Nat) : List Json → List Char
  | [] => lineBreak depth ++ [']']
  | j :: rest => ',' :: lineBreak (depth + 1) ++ prettyAt (depth + 1) j ++ prettyItems depth rest

/-- The members after the first one, and the closing brace. -/
def prettyFields (depth : Nat) : List (String × Json) → List Char
  | [] => lineBreak depth ++ ['\x7d']
  | (k, j) :: rest =>
    ',' :: lineBreak (depth + 1) ++ quote k ++ ':' :: ' ' :: prettyAt (depth + 1) j
      ++ prettyFields depth rest

end

/-- The indented text of a value. -/
def pretty (j : Json) : String := String.ofList (prettyAt 0 j)

mutual

/-- The text of a value on one line, put in front of what follows. -/
def compactOnto : Json → List Char → List Char
  | .null, tail => "null".toList ++ tail
  | .bool true, tail => "true".toList ++ tail
  | .bool false, tail => "false".toList ++ tail
  | .int n, tail => intText n ++ tail
  | .float x, tail =>
    if x.isNaN then "NaN".toList ++ tail
    else if x.isInfinite then (if x.negative then "-Infinity" else "Infinity").toList ++ tail
    else floatText x ++ tail
  | .str s, tail => quote s ++ tail
  | .arr items, tail => '[' :: compactItems items (']' :: tail)
  | .obj fields, tail => '\x7b' :: compactFields fields ('\x7d' :: tail)

def compactItems : List Json → List Char → List Char
  | [], tail => tail
  | [j], tail => compactOnto j tail
  | j :: rest, tail => compactOnto j (',' :: compactItems rest tail)

def compactFields : List (String × Json) → List Char → List Char
  | [], tail => tail
  | [(k, j)], tail => quote k ++ ':' :: compactOnto j tail
  | (k, j) :: rest, tail => quote k ++ ':' :: compactOnto j (',' :: compactFields rest tail)

end

/-- The text of a value on one line. Numbers that are not finite are written by name. -/
def compact (j : Json) : String := String.ofList (compactOnto j [])

end Json

end CiVariables
