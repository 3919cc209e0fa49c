import CiVariables.Decimal.Double
import CiVariables.Text.Digit

/-!
# Numbers as people write them

`Numeral.int?` reads an integer in a base and `Numeral.float?` a floating-point number. Blanks may
stand around the number, a sign in front of it, and its digits may be of any script. An integer in
base two, eight or sixteen may have the mark of its base in front of its digits.
-/

namespace CiVariables.Numeral

/-- The text without blanks around it, its digits plain. -/
def trimmed (cs : List Char) : List Char :=
  Text.trimBoth Text.isPlainBlank (Text.plainDigits cs)

/-- A minus sign, and what is left after a sign. -/
def takeSign : List Char → Bool × List Char
  | '-' :: rest => (true, rest)
  | '+' :: rest => (false, rest)
  | cs => (false, cs)

def hexValue? (c : Char) : Option Nat :=
  if c.isDigit then some (c.toNat - 48)
  else if 'a' ≤ c && c ≤ 'f' then some (c.toNat - 87)
  else if 'A' ≤ c && c ≤ 'F' then some (c.toNat - 55)
  else none

/-- The value of digits in a base; every character has to be one, and there has to be one. -/
def digits? (base : Nat) (cs : List Char) : Option Nat :=
  if cs.isEmpty then none
  else
    cs.foldl (fun acc c => do
      let n ← acc
      let d ← hexValue? c
      if d < base then some (n * base + d) else none) (some 0)

/-- What is left after the mark of a base. -/
def dropMark (base : Nat) : List Char → List Char
  | '0' :: c :: rest =>
    if (base = 2 ∧ (c = 'b' ∨ c = 'B')) ∨ (base = 8 ∧ (c = 'o' ∨ c = 'O')) ∨
        (base = 16 ∧ (c = 'x' ∨ c = 'X')) then rest
    else '0' :: c :: rest
  | cs => cs

/-- The longest integer in base ten, in digits. -/
def maxDigits : Nat := 4300

/-- The integer that digits of a base write, after a sign and the mark of the base. -/
def int? (base : Nat) (cs : List Char) : Option Int :=
  let (negative, unsigned) := takeSign (trimmed cs)
  let ds := dropMark base unsigned
  if base = 10 ∧ maxDigits < ds.length then none
  else (digits? base ds).map fun n => if negative then -(n : Int) else n

def decimalValue (ds : List Char) : Nat := ds.foldl (fun n c => n * 10 + (c.toNat - 48)) 0

/-- The exponent after its mark. -/
def exponent? (cs : List Char) : Option Int :=
  let (negative, ds) := takeSign cs
  if ds.isEmpty || !ds.all Char.isDigit then none
  else some (if negative then -(decimalValue ds : Int) else decimalValue ds)

/-- The number of a text without sign: digits, perhaps a point and an exponent. -/
def decimal? (negative : Bool) (cs : List Char) : Option Double :=
  let whole := cs.takeWhile Char.isDigit
  let rest := cs.dropWhile Char.isDigit
  let (fraction, rest) :=
    match rest with
    | '.' :: rest => (rest.takeWhile Char.isDigit, rest.dropWhile Char.isDigit)
    | rest => ([], rest)
  let number (scale : Int) : Double :=
    Double.ofDecimal negative (decimalValue (whole ++ fraction)) (scale - (fraction.length : Int))
  if whole.isEmpty && fraction.isEmpty then none
  else
    match rest with
    | [] => some (number 0)
    | c :: ds => if c = 'e' ∨ c = 'E' then (exponent? ds).map number else none

/-- The floating-point number that a text writes; infinity and not-a-number have names. -/
def float? (cs : List Char) : Option Double :=
  let (negative, unsigned) := takeSign (trimmed cs)
  let word := String.ofList (unsigned.map Char.toLower)
  if word = "inf" ∨ word = "infinity" then some (.infinity negative)
  else if word = "nan" then some .nan
  else decimal? negative unsigned

end CiVariables.Numeral
