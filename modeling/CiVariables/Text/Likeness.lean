/-!
# How alike two texts are

The likeness of two texts is the share of their characters that they have in common: those of the
longest part that occurs in both, and then, before it and after it, in the same way.
-/

namespace CiVariables.Text

/-- How many characters two texts have in common at their start. -/
def commonStart : List Char → List Char → Nat
  | a :: as, b :: bs => if a = b then commonStart as bs + 1 else 0
  | _, _ => 0

/-- A part that occurs in two texts: where it starts in each, and how long it is. -/
structure CommonPart where
  first : Nat := 0
  second : Nat := 0
  size : Nat := 0
  deriving DecidableEq, Inhabited

/-- The better of a part and those that start with the first text, at the place `i`, and anywhere
in the second, from the place `j` on. -/
def longestAt (as : List Char) (i j : Nat) (best : CommonPart) : List Char → CommonPart
  | [] => best
  | b :: bs =>
    let size := commonStart as (b :: bs)
    longestAt as i (j + 1) (if best.size < size then ⟨i, j, size⟩ else best) bs

/-- The longest part that occurs in two texts; of several, the one that comes first. The first text
starts at the place `i`. -/
def longestFrom (i : Nat) (best : CommonPart) (bs : List Char) : List Char → CommonPart
  | [] => best
  | a :: as => longestFrom (i + 1) (longestAt (a :: as) i 0 best bs) bs as

/-- The longest part that occurs in two texts; of several, the one that comes first. -/
def longestPart (as bs : List Char) : CommonPart := longestFrom 0 {} bs as

/-- How many characters two texts have in common, with so many parts at most. -/
def commonCount : Nat → List Char → List Char → Nat
  | 0, _, _ => 0
  | parts + 1, as, bs =>
    let p := longestPart as bs
    if p.size = 0 then 0
    else
      p.size + commonCount parts (as.take p.first) (bs.take p.second) +
        commonCount parts (as.drop (p.first + p.size)) (bs.drop (p.second + p.size))

/-- How alike two texts are, as twice the common characters and all characters. -/
def likeness (a b : String) : Nat × Nat :=
  (2 * commonCount a.length a.toList b.toList, a.length + b.length)

def suggestionLimit : Nat := 3

/-- The candidates that are like a text, at least by three fifths, in alphabetical order: the three
that are most alike. -/
def suggestions (candidates : List String) (text : String) : List String :=
  let like := (candidates.map fun c => (c, likeness c text)).filter fun (_, common, all) =>
    3 * all ≤ 5 * common
  let better (x y : String × Nat × Nat) : Bool :=
    let left := x.2.1 * y.2.2
    let right := y.2.1 * x.2.2
    right < left || (left == right && decide (y.1 ≤ x.1))
  (((like.mergeSort better).take suggestionLimit).map (·.1)).mergeSort fun a b => decide (a ≤ b)

end CiVariables.Text
