import CiVariables.Decimal.Numeral
import CiVariables.Text.Surrogate
import CiVariables.Yaml.Lexer

/-!
# Tags

What a node is marked to be. A tag names a kind of the standard schema; any other name is unknown
and has no value. A plain scalar without a tag gets the tag of its form: booleans, numbers, null,
points in time, the marks for merging and for a default value, or else text. The forms differ in
version 1.1, which has more of them. One line feed at the end of a scalar does not change its form.
-/

namespace CiVariables.Yaml

open CiVariables

/-- What a node is marked to be. -/
inductive Tag where
  | null
  | bool
  | int
  | float
  | timestamp
  | text
  | binary
  /-- The mark that merges another mapping into this one. -/
  | merge
  /-- The mark for a default value: a text as a key, and nothing elsewhere. -/
  | default
  | list
  | mapping
  | set
  | orderedMapping
  | pairs
  | unknown
  deriving DecidableEq, Inhabited

namespace Tag

def standardStart : List Char := "tag:yaml.org,2002:".toList

/-- The tags of the standard schema by what follows the common start. -/
def standard : List (String × Tag) :=
  [("null", .null), ("bool", .bool), ("int", .int), ("float", .float), ("timestamp", .timestamp),
    ("str", .text), ("binary", .binary), ("merge", .merge), ("value", .default), ("seq", .list),
    ("map", .mapping), ("set", .set), ("omap", .orderedMapping), ("pairs", .pairs)]

/-- The tag of a full name. -/
def ofName (name : List Char) : Tag :=
  if Text.startsWith name standardStart then
    (standard.lookup (String.ofList (name.drop standardStart.length))).getD unknown
  else unknown

/-- The name with every percent sign and the two digits after it replaced by the character that the
digits number. -/
def decodeName? : List Char → Option (List Char)
  | [] => some []
  | '%' :: a :: b :: rest => do
    let n ← Numeral.int? 16 [a, b]
    let more ← decodeName? rest
    if 0 ≤ n then some (Char.ofNat n.toNat :: more) else none
  | ['%', a] => do
    let n ← Numeral.int? 16 [a]
    if 0 ≤ n then some [Char.ofNat n.toNat] else none
  | ['%'] => none
  | c :: rest => (decodeName? rest).map (c :: ·)

/-! ## Forms -/

def isDigit (c : Char) : Bool := c.isDigit

def isDecimalGroup (c : Char) : Bool := c.isDigit || c == '_'

def isOctalGroup (c : Char) : Bool := ('0' ≤ c && c ≤ '7') || c == '_'

def isBinaryGroup (c : Char) : Bool := c == '0' || c == '1' || c == '_'

def isHexGroup (c : Char) : Bool := Lex.isHex c || c == '_'

/-- The text without its sign. -/
def dropSign (cs : List Char) : List Char := (Numeral.takeSign cs).2

/-- Nothing, or an exponent: its sign may be left out unless it is asked for. -/
def isExponent (needsSign mayBeEmpty : Bool) : List Char → Bool
  | [] => mayBeEmpty
  | c :: rest =>
    if c == 'e' || c == 'E' then
      match rest with
      | '-' :: ds | '+' :: ds => !ds.isEmpty && ds.all isDigit
      | ds => !needsSign && !ds.isEmpty && ds.all isDigit
    else false

/-- Digits, a point and perhaps an exponent. -/
def isPointed (cs : List Char) : Bool :=
  match cs with
  | c :: _ =>
    c.isDigit &&
      match cs.dropWhile isDecimalGroup with
      | '.' :: rest => isExponent false true (rest.dropWhile isDecimalGroup)
      | rest => isExponent false false rest
  | [] => false

/-- A point, digits and perhaps an exponent with a sign. -/
def isFraction (cs : List Char) : Bool :=
  match cs with
  | '.' :: rest =>
    !(rest.takeWhile isDecimalGroup).isEmpty && isExponent true true (rest.dropWhile isDecimalGroup)
  | _ => false

def isInfinity (cs : List Char) : Bool :=
  cs == ".inf".toList || cs == ".Inf".toList || cs == ".INF".toList

def isNaN (cs : List Char) : Bool :=
  cs == ".nan".toList || cs == ".NaN".toList || cs == ".NAN".toList

/-- Groups of at most two digits below sixty after colons, at least one; then what is left. -/
def dropSixties : Nat → List Char → Option (List Char)
  | 0, _ => none
  | fuel + 1, cs =>
    match cs with
    | ':' :: a :: b :: rest =>
      if '0' ≤ a && a ≤ '5' && b.isDigit then (dropSixties fuel rest).or (some rest)
      else if a.isDigit then (dropSixties fuel (b :: rest)).or (some (b :: rest))
      else none
    | [':', a] => if a.isDigit then some [] else none
    | _ => none

/-- A number in base sixty, whole or with a fraction. -/
def isSexagesimal (withFraction : Bool) (cs : List Char) : Bool :=
  match cs with
  | c :: _ =>
    c.isDigit && (withFraction || c != '0') &&
      match dropSixties cs.length (cs.dropWhile isDecimalGroup) with
      | some [] => !withFraction
      | some ('.' :: rest) => withFraction && rest.all isDecimalGroup
      | _ => false
  | [] => false

/-- The text has the form of a number that need not be an integer. -/
def isFloat (isOld : Bool) (cs : List Char) : Bool :=
  let unsigned := dropSign cs
  isPointed unsigned || isFraction (if isOld then cs else unsigned) || isInfinity unsigned ||
    isNaN cs || (isOld && isSexagesimal true unsigned)

/-- Not empty and of characters that satisfy a test. -/
def isRun (test : Char → Bool) (cs : List Char) : Bool := !cs.isEmpty && cs.all test

/-- The text has the form of an integer. -/
def isInt (isOld : Bool) (cs : List Char) : Bool :=
  let unsigned := dropSign cs
  let isPrefixed :=
    match unsigned with
    | '0' :: 'b' :: rest => isRun isBinaryGroup rest
    | '0' :: 'x' :: rest => isRun isHexGroup rest
    | '0' :: 'o' :: rest => !isOld && isRun isOctalGroup rest
    | _ => false
  isPrefixed ||
    if isOld then
      isRun isOctalGroup unsigned ||
        (match unsigned with
          | c :: _ => '1' ≤ c && c ≤ '9' && unsigned.all isDecimalGroup
          | [] => false) ||
        isSexagesimal false unsigned
    else isRun isDecimalGroup unsigned

/-- The forms of a boolean: all small, capitalised or all capital letters. -/
def isBool (isOld : Bool) (cs : List Char) : Bool :=
  let word := String.ofList cs
  let forms (w : String) : List String := [w, w.capitalize, w.map Char.toUpper]
  ((["true", "false"] ++ if isOld then ["y", "n", "yes", "no", "on", "off"] else []).flatMap
    forms).contains word

/-- The text stands for null. -/
def isNull (cs : List Char) : Bool :=
  cs == ['~'] || cs == "null".toList || cs == "Null".toList || cs == "NULL".toList

/-- One or two digits at the front are dropped. -/
def dropTwoDigits? (cs : List Char) : Option (List Char) :=
  match (cs.take 2).takeWhile isDigit with
  | [] => none
  | ds => some (cs.drop ds.length)

def dropDigits? (count : Nat) (cs : List Char) : Option (List Char) :=
  if (cs.take count).length = count ∧ (cs.take count).all isDigit then some (cs.drop count)
  else none

def dropChar? (c : Char) : List Char → Option (List Char)
  | d :: rest => if c = d then some rest else none
  | [] => none

/-- Nothing, or a time zone after spaces. -/
def isZone (cs : List Char) : Bool :=
  let isMinutes : List Char → Bool
    | [] => true
    | [':', a, b] => a.isDigit && b.isDigit
    | _ => false
  match cs.dropWhile fun c => c == ' ' || c == '\t' with
  | [] => cs.isEmpty
  | ['Z'] => true
  | '-' :: rest | '+' :: rest =>
    match dropTwoDigits? rest with
    | some rest => isMinutes rest
    | none => false
  | _ => false

/-- The text is a time of day. -/
def isTimeOfDay (cs : List Char) : Bool :=
  let rest := do
    let rest ← dropTwoDigits? cs
    let rest ← dropDigits? 2 (← dropChar? ':' rest)
    dropDigits? 2 (← dropChar? ':' rest)
  match rest with
  | none => false
  | some ('.' :: rest) => isZone (rest.dropWhile isDigit)
  | some rest => isZone rest

def dropSeparator? : List Char → Option (List Char)
  | c :: rest =>
    if c = 'T' ∨ c = 't' then some rest
    else if c = ' ' ∨ c = '\t' then some (rest.dropWhile fun c => c == ' ' || c == '\t')
    else none
  | [] => none

/-- A date with all its digits, or a date and a time of day. -/
def isTimestamp (cs : List Char) : Bool :=
  let afterDate (digits : List Char → Option (List Char)) : Option (List Char) := do
    let rest ← dropDigits? 4 cs
    let rest ← digits (← dropChar? '-' rest)
    digits (← dropChar? '-' rest)
  afterDate (dropDigits? 2) == some [] ||
    match (afterDate dropTwoDigits?).bind dropSeparator? with
    | some rest => isTimeOfDay rest
    | none => false

/-- The text without one line feed at its end. -/
def dropFinalBreak (cs : List Char) : List Char :=
  match cs.reverse with
  | '\n' :: rest => rest.reverse
  | _ => cs

/-- The tag of a scalar by its form. Only what starts like a form is compared with it. -/
def ofForm (isOld : Bool) (text : List Char) : Tag :=
  match text with
  | [] => .null
  | c :: _ =>
    let cs := dropFinalBreak text
    let startsInt := c.isDigit || c == '-' || c == '+'
    if isBool isOld cs then .bool
    else if (startsInt || c == '.') && isFloat isOld cs then .float
    else if startsInt && isInt isOld cs then .int
    else if cs == ['<', '<'] then .merge
    else if isNull cs then .null
    else if c.isDigit && isTimestamp cs then .timestamp
    else if cs == ['='] then .default
    else if cs == ['!'] || cs == ['&'] || cs == ['*'] then .unknown
    else .text

end Tag

end CiVariables.Yaml
