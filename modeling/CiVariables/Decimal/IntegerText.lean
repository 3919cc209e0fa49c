import CiVariables.Text.Blank

/-!
# Integers in loosely written text

A plain integer is an optional minus sign and digits without a zero in front. `IntegerText.read`
also takes a text that becomes plain once it has been tidied: blanks around it, a plus sign, zeros
in front, a fraction of zeros and single underscores between digits go.
-/

namespace CiVariables.IntegerText

/-- Why a text is no integer. -/
inductive Fault where
  | malformed
  | tooLong
  deriving DecidableEq, Inhabited

/-- The longest plain integer, with its sign. -/
def maxLength : Nat := 4300

def value (ds : List Char) : Nat := ds.foldl (fun n c => n * 10 + (c.toNat - 48)) 0

/-- The integer that a plain text writes. One that is too long is refused before what follows it is
looked at. -/
def plain (cs : List Char) : Except Fault Int :=
  let negative := cs.head? == some '-'
  let unsigned := if negative then cs.drop 1 else cs
  let ds := unsigned.takeWhile Char.isDigit
  let rest := unsigned.dropWhile Char.isDigit
  if ds.isEmpty ∨ (ds.head? = some '0' ∧ ds.length ≠ 1) then .error .malformed
  else if maxLength < ds.length + (if negative then 1 else 0) then .error .tooLong
  else if !rest.isEmpty then .error .malformed
  else .ok (if negative then -(value ds : Int) else value ds)

/-- What is left after zeros and underscores in front, the first of them a zero. A point keeps the
character before it; where nothing else follows, the last character stays. -/
def afterZeros (last : Char) : List Char → Option (List Char)
  | [] => some [last]
  | c :: rest =>
    if c = '0' ∨ c = '_' then afterZeros c rest
    else if c.isDigit ∨ c = '-' then some (c :: rest)
    else if c = '.' then some (last :: c :: rest)
    else none

/-- The text without zeros in front. It has to start with a digit or a minus sign. -/
def dropZeros : List Char → Option (List Char)
  | [] => none
  | c :: rest =>
    if c = '0' then afterZeros c rest
    else if c.isDigit ∨ c = '-' then some (c :: rest)
    else none

/-- The text without a point and zeros at its end; there has to be a zero. -/
def dropZeroFraction (cs : List Char) : List Char :=
  match cs.reverse.dropWhile (· == '0') with
  | '.' :: rest => if cs.getLast? = some '0' then rest.reverse else cs
  | _ => cs

def hasDoubleUnderscore : List Char → Bool
  | '_' :: '_' :: _ => true
  | _ :: rest => hasDoubleUnderscore rest
  | [] => false

/-- The text without underscores, if they stand singly and not at its ends. -/
def dropUnderscores (cs : List Char) : List Char :=
  if cs.head? = some '_' ∨ cs.getLast? = some '_' ∨ hasDoubleUnderscore cs then cs
  else cs.filter (· != '_')

/-- The text with everything taken away that a plain integer may not have. -/
def tidied (cs : List Char) : Option (List Char) :=
  match Text.trimBoth Text.isBlank cs with
  | '+' :: '-' :: _ => none
  | '+' :: rest | rest => (dropZeros rest).map fun cs => dropUnderscores (dropZeroFraction cs)

/-- Reads an integer. Blanks around it, zeros before it, a fraction of zeros and single underscores
are dropped. -/
def read (cs : List Char) : Except Fault Int :=
  match plain cs with
  | .error .malformed =>
    match tidied cs with
    | some cs => plain cs
    | none => .error .malformed
  | result => result

end CiVariables.IntegerText
