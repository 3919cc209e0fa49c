/-!
# Binary floating-point numbers by their bits

A `Double` is the 64-bit pattern of an IEEE 754 number. Its value is read off the pattern as
`± mantissa · 2 ^ exponent`, so that printing, reading and comparing numbers are integer
arithmetic and two numbers are equal exactly when their patterns are.
-/

namespace CiVariables

-- A power is the one of the core library, whatever else is imported.
attribute [local instance (2000)] instPowNat

/-- A 64-bit floating-point number. -/
structure Double where
  bits : UInt64
  deriving DecidableEq, Inhabited, Hashable

namespace Double

def negative (x : Double) : Bool := x.bits >>> 63 == 1

def exponentBits (x : Double) : Nat := ((x.bits >>> 52) &&& 0x7ff).toNat

def fractionBits (x : Double) : Nat := (x.bits &&& 0xfffffffffffff).toNat

def isFinite (x : Double) : Bool := x.exponentBits != 0x7ff

def isNaN (x : Double) : Bool := !x.isFinite && x.fractionBits != 0

def isInfinite (x : Double) : Bool := !x.isFinite && x.fractionBits == 0

/-- The integer part of the representation, with the leading bit of a normal number. -/
def mantissa (x : Double) : Nat :=
  if x.exponentBits = 0 then x.fractionBits else x.fractionBits + 2 ^ (52 : Nat)

/-- The power of two of the last bit of the mantissa. -/
def exponent (x : Double) : Int :=
  if x.exponentBits = 0 then -1074 else (x.exponentBits : Int) - 1075

def isZero (x : Double) : Bool := x.isFinite && x.mantissa == 0

/-- The number from its sign, exponent bits and fraction bits. -/
def ofFields (negative : Bool) (exponentBits fractionBits : Nat) : Double :=
  ⟨UInt64.ofNat
    ((if negative then 2 ^ (63 : Nat) else 0) + exponentBits * 2 ^ (52 : Nat) + fractionBits)⟩

def infinity (negative : Bool) : Double := ofFields negative 0x7ff 0

def nan : Double := ofFields false 0x7ff (2 ^ (51 : Nat))

/-- The integer that a finite number without a fractional part equals. -/
def toInt? (x : Double) : Option Int :=
  if !x.isFinite then none
  else
    let sign : Int := if x.negative then -1 else 1
    let m := x.mantissa
    match x.exponent with
    | .ofNat e => some (sign * (m * 2 ^ e : Nat))
    | .negSucc k =>
      let scale := 2 ^ (k + 1)
      if m % scale = 0 then some (sign * (m / scale : Nat)) else none

/-- The integer part of a finite number, toward zero. -/
def truncate (x : Double) : Int :=
  let sign : Int := if x.negative then -1 else 1
  match x.exponent with
  | .ofNat e => sign * (x.mantissa * 2 ^ e : Nat)
  | .negSucc k => sign * (x.mantissa / 2 ^ (k + 1) : Nat)

/-- Equality as numbers: the two zeros are equal and not-a-number equals nothing. -/
def numEq (x y : Double) : Bool :=
  !x.isNaN && !y.isNaN && (x == y || (x.isZero && y.isZero))

/-- The mantissa with the sign of the number. -/
def signedMantissa (x : Double) : Int := if x.negative then -(x.mantissa : Int) else x.mantissa

/-- The number is finite and at most another finite one. -/
def le (x y : Double) : Bool :=
  let e := min x.exponent y.exponent
  let scaled (z : Double) : Int := z.signedMantissa * 2 ^ (z.exponent - e).toNat
  x.isFinite && y.isFinite && decide (scaled x ≤ scaled y)

/-- The quotient of two naturals, rounded to the nearest integer with ties to even. -/
def roundQuotient (num den : Nat) : Nat :=
  let q := num / den
  let r := num % den
  if 2 * r < den then q
  else if 2 * r > den then q + 1
  else if q % 2 = 0 then q else q + 1

/-- The power of two `2 ^ e` with `2 ^ e ≤ num / den < 2 ^ (e + 1)`, for a positive quotient. -/
def binaryLog (num den : Nat) : Int :=
  let guess : Int := (Nat.log2 num : Int) - (Nat.log2 den : Int)
  let reaches : Bool :=
    match guess with
    | .ofNat e => decide (den * 2 ^ e ≤ num)
    | .negSucc k => decide (den ≤ num * 2 ^ (k + 1))
  if reaches then guess else guess - 1

/-- The number nearest to `num / den`, ties to even, infinite beyond the range. -/
def ofQuotient (negative : Bool) (num den : Nat) : Double :=
  if num = 0 then ofFields negative 0 0
  else
    let e := max (binaryLog num den - 52) (-1074)
    let m :=
      match e with
      | .ofNat k => roundQuotient num (den * 2 ^ k)
      | .negSucc k => roundQuotient (num * 2 ^ (k + 1)) den
    let (m, e) := if m = 2 ^ (53 : Nat) then (2 ^ (52 : Nat), e + 1) else (m, e)
    if m < 2 ^ (52 : Nat) then ofFields negative 0 m
    else
      let field := (e + 1075).toNat
      if field ≥ 0x7ff then infinity negative
      else ofFields negative field (m - 2 ^ (52 : Nat))

/-- The number nearest to `digits · 10 ^ scale`. Exponents far outside the range give zero or
infinity without computing the power. -/
def ofDecimal (negative : Bool) (digits : Nat) (scale : Int) : Double :=
  let size : Int := (Nat.toDigits 10 digits).length
  if digits = 0 then ofFields negative 0 0
  else if scale + size > 400 then infinity negative
  else if scale + size < -400 then ofFields negative 0 0
  else
    match scale with
    | .ofNat k => ofQuotient negative (digits * 10 ^ k) 1
    | .negSucc k => ofQuotient negative digits (10 ^ (k + 1))

/-- The nearest double of an integer. -/
def ofInt (n : Int) : Double := ofQuotient (n < 0) n.natAbs 1

/-- The number nearest to `n · 2 ^ e`; zero has the given sign. -/
def ofScaled (zeroSign : Bool) (n e : Int) : Double :=
  if n = 0 then ofFields zeroSign 0 0
  else
    match e with
    | .ofNat k => ofQuotient (n < 0) (n.natAbs * 2 ^ k) 1
    | .negSucc k => ofQuotient (n < 0) n.natAbs (2 ^ (k + 1))

def neg (x : Double) : Double := ⟨x.bits ^^^ ((1 : UInt64) <<< 63)⟩

/-- The sum, rounded to nearest. -/
def add (x y : Double) : Double :=
  if x.isNaN || y.isNaN then nan
  else if x.isInfinite then if y.isInfinite && x.negative != y.negative then nan else x
  else if y.isInfinite then y
  else
    let e := min x.exponent y.exponent
    ofScaled (x.negative && y.negative)
      (x.signedMantissa * 2 ^ (x.exponent - e).toNat +
        y.signedMantissa * 2 ^ (y.exponent - e).toNat) e

/-- The product, rounded to nearest. -/
def mul (x y : Double) : Double :=
  let sign := x.negative != y.negative
  if x.isNaN || y.isNaN then nan
  else if x.isInfinite || y.isInfinite then if x.isZero || y.isZero then nan else infinity sign
  else ofScaled sign (x.signedMantissa * y.signedMantissa) (x.exponent + y.exponent)

/-- The quotient, rounded to nearest; the divisor is a positive integer. -/
def divNat (x : Double) (n : Nat) : Double :=
  if !x.isFinite then x
  else if x.mantissa = 0 then x
  else
    match x.exponent with
    | .ofNat k => ofQuotient x.negative (x.mantissa * 2 ^ k) n
    | .negSucc k => ofQuotient x.negative x.mantissa (n * 2 ^ (k + 1))

end Double

end CiVariables
