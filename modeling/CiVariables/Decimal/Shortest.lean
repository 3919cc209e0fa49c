import CiVariables.Decimal.Double

/-!
# Shortest decimal text of a floating-point number

`Double.shortest` finds the fewest decimal digits that read back as the number, and of those the
nearest. A `DecimalStyle` then says how the digits are written: which exponents are positional,
how an exponent is marked, and whether a whole number keeps its `.0`.
-/

namespace CiVariables

-- A power is the one of the core library, whatever else is imported.
attribute [local instance (2000)] instPowNat

/-- The decimal number `0.d₁d₂… · 10 ^ point`, given by its digits. -/
structure DecimalDigits where
  digits : List Char
  /-- How many digits stand before the decimal point. -/
  point : Int
  deriving DecidableEq

namespace Double

/-- Compares `a · 10 ^ s` with `b · 2 ^ t` exactly. -/
def compareScaled (a : Nat) (s : Int) (b : Nat) (t : Int) : Ordering :=
  compare (a * 10 ^ s.toNat * 2 ^ (-t).toNat) (b * 2 ^ t.toNat * 10 ^ (-s).toNat)

/-- The integer part of `b · 2 ^ t / 10 ^ s`. -/
def floorScaled (b : Nat) (t s : Int) : Nat :=
  (b * 2 ^ t.toNat * 10 ^ (-s).toNat) / (10 ^ s.toNat * 2 ^ (-t).toNat)

/-- The bounds of the reals that round to a positive finite number, in quarters of its last place:
the lower neighbour of a power of two is half as far away. -/
def roundingBounds (x : Double) : Nat × Nat :=
  let m := x.mantissa
  (if x.fractionBits = 0 ∧ 1 < x.exponentBits then 4 * m - 1 else 4 * m - 2, 4 * m + 2)

/-- `d · 10 ^ s` rounds to the number. The bounds themselves do if the mantissa is even. -/
def roundsFrom (x : Double) (d : Nat) (s : Int) : Bool :=
  let (lo, hi) := x.roundingBounds
  let t := x.exponent - 2
  let even := x.mantissa % 2 = 0
  (match compareScaled d s lo t with | .gt => true | .eq => even | .lt => false) &&
  (match compareScaled d s hi t with | .lt => true | .eq => even | .gt => false)

/-- The multiple of `10 ^ s` nearest to the number among those that round to it. -/
def nearestOnGrid? (x : Double) (s : Int) : Option Nat :=
  let t := x.exponent
  let below := floorScaled x.mantissa t s
  let above := below + 1
  match x.roundsFrom below s, x.roundsFrom above s with
  | false, false => none
  | true, false => some below
  | false, true => some above
  | true, true =>
    match compareScaled (below + above) s (2 * x.mantissa) t with
    | .gt => some below
    | .lt => some above
    | .eq => some (if below % 2 = 0 then below else above)

/-- How many digits the integer part of a positive number has; zero or less below one. -/
def decimalPoint (x : Double) : Int :=
  let t := x.exponent
  let guess : Int := ((Nat.log2 x.mantissa : Int) + t) * 30103 / 100000
  let reaches (k : Int) : Bool := compareScaled 1 k x.mantissa t != .gt
  if reaches (guess + 1) then guess + 2
  else if reaches guess then guess + 1
  else guess

/-- Tries one digit, two digits, … and takes the first that reads back. -/
def shortestFrom (x : Double) (point : Int) : Nat → Nat → DecimalDigits
  | 0, n => ⟨Nat.toDigits 10 (floorScaled x.mantissa x.exponent (point - n)), point⟩
  | fuel + 1, n =>
    match x.nearestOnGrid? (point - n) with
    | some d =>
      let ds := Nat.toDigits 10 d
      ⟨ds, point + ((ds.length : Int) - n)⟩
    | none => shortestFrom x point fuel (n + 1)

def trimZeros (ds : List Char) : List Char :=
  (ds.reverse.dropWhile (· == '0')).reverse

/-- The fewest digits that read back as a positive finite number. -/
def shortest (x : Double) : DecimalDigits :=
  let d := x.shortestFrom x.decimalPoint 17 1
  ⟨trimZeros d.digits, d.point⟩

end Double

/-- How a finite number is written. -/
structure DecimalStyle where
  /-- The least scientific exponent written positionally. -/
  leastPositional : Int
  /-- The least scientific exponent above that range again. -/
  leastScientific : Int
  /-- A positive exponent carries a plus sign. -/
  plusSign : Bool
  /-- The exponent has at least this many digits. -/
  exponentWidth : Nat

namespace DecimalStyle

def padZeros (width : Nat) (ds : List Char) : List Char :=
  List.replicate (width - ds.length) '0' ++ ds

/-- The text of a digit string in a style. A whole number keeps one zero after the point in the
positional form and has no point in the scientific form. -/
def write (style : DecimalStyle) (d : DecimalDigits) : List Char :=
  let e := d.point - 1
  if style.leastPositional ≤ e ∧ e < style.leastScientific then
    if d.point ≤ 0 then '0' :: '.' :: (List.replicate (-d.point).toNat '0' ++ d.digits)
    else
      let n := d.point.toNat
      if d.digits.length ≤ n then
        d.digits ++ List.replicate (n - d.digits.length) '0' ++ ['.', '0']
      else d.digits.take n ++ '.' :: d.digits.drop n
  else
    let head :=
      match d.digits with
      | [] => ['0']
      | [c] => [c]
      | c :: rest => c :: '.' :: rest
    let sign := if e < 0 then ['-'] else if style.plusSign then ['+'] else []
    head ++ 'e' :: sign ++ padZeros style.exponentWidth (Nat.toDigits 10 e.natAbs)

/-- A finite double in a style. -/
def ofFinite (style : DecimalStyle) (x : Double) : String :=
  let sign := if x.negative then ['-'] else []
  String.ofList <| sign ++
    if x.mantissa = 0 then ['0', '.', '0'] else style.write x.shortest

/-- Numbers shown to people: positional from `0.0001` up to sixteen digits, exponents with a sign
and two digits. -/
def display : DecimalStyle := ⟨-4, 16, true, 2⟩

/-- Numbers in plan files: positional from `0.00001` up to sixteen digits, exponents with a sign and
no zeros in front. -/
def compact : DecimalStyle := ⟨-5, 16, true, 1⟩

end DecimalStyle

/-- The text that a double is shown as. -/
def Double.display (x : Double) : String :=
  if x.isNaN then "nan"
  else if x.isInfinite then if x.negative then "-inf" else "inf"
  else DecimalStyle.display.ofFinite x

end CiVariables
