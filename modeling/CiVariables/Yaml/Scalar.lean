import CiVariables.Yaml.Key
import CiVariables.Yaml.Node

/-!
# The values of scalars

`Scalar.atom?` gives the value that a text has under a tag. A text that does not fit its tag, such
as a word for a number, has none. Underscores in numbers are for the eye. Version 1.1 also reads
integers with a zero in front in base eight, and numbers with colons in base sixty.
-/

namespace CiVariables.Yaml.Scalar

open CiVariables

def splitColons (cs : List Char) : List (List Char) :=
  cs.foldr (fun c acc =>
    if c == ':' then [] :: acc
    else match acc with
      | part :: rest => (c :: part) :: rest
      | [] => [[c]]) [[]]

/-- The boolean that a word stands for. -/
def boolOf? (word : List Char) : Option Bool :=
  let word := String.ofList (word.map Char.toLower)
  if ["yes", "y", "true", "on"].contains word then some true
  else if ["no", "n", "false", "off"].contains word then some false
  else none

/-- The integer that a text writes, in one of the notations of the version. -/
def intOf? (isOld : Bool) (text : List Char) : Option Int :=
  let cs := text.filter (· != '_')
  let (negative, unsigned) := Numeral.takeSign cs
  let signed (n : Option Int) : Option Int := if negative then n.map (- ·) else n
  match unsigned with
  | ['0'] => some 0
  | '0' :: 'b' :: rest => signed (Numeral.int? 2 rest)
  | '0' :: 'x' :: rest => signed (Numeral.int? 16 rest)
  | '0' :: 'o' :: rest => signed (Numeral.int? 8 rest)
  | unsigned =>
    if isOld && unsigned.head? == some '0' then signed (Numeral.int? 8 unsigned)
    else if isOld && unsigned.contains ':' then
      signed (((splitColons unsigned).mapM (Numeral.int? 10)).map fun parts =>
        parts.foldl (fun n d => n * 60 + d) 0)
    else signed (Numeral.int? 10 unsigned)

/-- The sum of parts in base sixty, the least one first, rounded after every step. -/
def sixties (parts : List Double) : Double :=
  (parts.foldl (fun (sum, base) d => (sum.add (d.mul (Double.ofInt base)), base * 60))
    (Double.ofInt 0, (1 : Int))).1

/-- The number that a text writes, in one of the notations of the version. -/
def floatOf? (isOld : Bool) (text : List Char) : Option Double :=
  let cs := (text.filter (· != '_')).map Char.toLower
  let (negative, unsigned) := Numeral.takeSign cs
  let signed (x : Double) : Double := if negative && !x.isNaN then x.neg else x
  if unsigned == ".inf".toList then some (.infinity negative)
  else if isOld && unsigned.contains ':' then
    ((splitColons unsigned).mapM Numeral.float?).map fun parts => signed (sixties parts.reverse)
  else (Numeral.float? unsigned).map signed

/-- The text asks for the common not-a-number. -/
def isCommonNaN (text : List Char) : Bool :=
  Tag.dropSign ((text.filter (· != '_')).map Char.toLower) == ".nan".toList

def base64Value? (c : Char) : Option Nat :=
  if 'A' ≤ c && c ≤ 'Z' then some (c.toNat - 65)
  else if 'a' ≤ c && c ≤ 'z' then some (c.toNat - 71)
  else if c.isDigit then some (c.toNat + 4)
  else if c == '+' then some 62
  else if c == '/' then some 63
  else none

/-- Reads digits in base sixty-four; other characters are passed over. `count` digits of the current
group have been read, the last of them leaving the bits `left`; `pads` marks follow it. A group is
over once two or three digits and marks make four, and then nothing else is read. -/
def base64From (count left pads : Nat) : List Char → Option (List UInt8)
  | [] => if count = 0 then some [] else none
  | c :: rest =>
    if c = '=' then
      if 2 ≤ count ∧ 4 ≤ count + pads + 1 then some []
      else base64From count left (if 2 ≤ count then pads + 1 else pads) rest
    else
      match base64Value? c with
      | none => base64From count left pads rest
      | some v =>
        match count with
        | 0 => base64From 1 v 0 rest
        | 1 => (base64From 2 (v % 16) 0 rest).map (UInt8.ofNat (left * 4 + v / 16) :: ·)
        | 2 => (base64From 3 (v % 4) 0 rest).map (UInt8.ofNat (left * 16 + v / 4) :: ·)
        | _ => (base64From 0 0 0 rest).map (UInt8.ofNat (left * 64 + v) :: ·)

/-- The bytes that base64 text writes. -/
def bytesOf? (cs : List Char) : Option (List UInt8) :=
  if cs.all fun c => c.toNat < 128 then base64From 0 0 0 cs else none

/-- The value of a scalar under a tag. -/
def atom? (isOld : Bool) (id : Nat) (tag : Tag) (text : List Char) : Option Atom :=
  match tag with
  | .null => some .null
  | .bool => (boolOf? text).map .bool
  | .int => (intOf? isOld text).map .int
  | .float =>
    if isCommonNaN text then some (.nan none)
    else (floatOf? isOld text).map fun x => if x.isNaN then .nan (some id) else .float x
  | .timestamp => (Moment.ofText? text).map .moment
  | .text => some (.text (String.ofList text))
  | .binary => (bytesOf? text).map .bytes
  | _ => none

end CiVariables.Yaml.Scalar
