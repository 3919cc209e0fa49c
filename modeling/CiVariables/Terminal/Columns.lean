import CiVariables.Decimal.Double
import CiVariables.Terminal.Width

/-!
# Cells side by side

A row of cells, each with the blanks that follow it, as wide as their contents if the screen has the
room. If it has not, those that may shrink do, the widest first; if that is not enough, all do by
the same amount as far as they can.
-/

namespace CiVariables.Terminal

-- A sum starts from the numeral zero, whatever else is imported.
attribute [local instance (2000)] Zero.ofOfNat0

/-- A cell of a row. -/
structure Cell where
  /-- How many cells of the screen the content would take. -/
  natural : Nat
  /-- The blanks after the content. -/
  gap : Nat := 0
  /-- The cell gives room to others first. -/
  shrinks : Bool := false
  /-- The lines of the content in so many cells of the screen. -/
  lines : Nat → List (List Char)

namespace Cell

/-- How wide a cell would be on a screen of its own, with the blanks after it. -/
def fullWidth (screen : Nat) (c : Cell) : Nat :=
  if screen ≤ c.gap then screen else min screen (min screen c.natural + c.gap)

/-- The lines of a cell, with the blanks after it, in a given width. -/
def linesIn (width : Nat) (c : Cell) : List (List Char) :=
  if width ≤ c.gap then []
  else (c.lines (width - c.gap)).map fun line => fit width (fit (width - c.gap) line)

end Cell

/-- A width that is to be reduced. -/
structure Reduction where
  width : Nat
  /-- By how much it may be reduced. -/
  most : Nat
  deriving Inhabited

/-- Reduces widths by a total of `excess`, each by a fair share of what is left to take away. -/
def reduce (excess : Nat) : List Reduction → List Nat
  | [] => []
  | r :: rest =>
    if r.most = 0 then r.width :: reduce excess rest
    else
      let sharers := 1 + rest.countP (0 < ·.most)
      let share := min r.most (Double.roundQuotient excess sharers)
      (r.width - share) :: reduce (excess - share) rest

/-- The widest of the widths that may shrink. -/
def widestOf (shrinks : List Bool) (widths : List Nat) : Nat :=
  (widths.zip shrinks).foldl (fun n (w, s) => if s then max n w else n) 0

/-- Shrinks the widest of the widths that may shrink down to the next of them, until all fit the
screen or no more can be done. -/
def shrink (screen : Nat) (shrinks : List Bool) : Nat → List Nat → List Nat
  | 0, widths => widths
  | steps + 1, widths =>
    let excess := widths.sum - screen
    let widest := widestOf shrinks widths
    let next := widestOf ((widths.zip shrinks).map fun (w, s) => s && w != widest) widths
    if excess = 0 ∨ widest = next then widths
    else
      shrink screen shrinks steps
        (reduce excess ((widths.zip shrinks).map fun (w, s) =>
          ⟨w, if s && w == widest then min excess (widest - next) else 0⟩))

/-- The widths of the cells of a row: as they are if they fit, else shrunk. -/
def cellWidths (screen : Nat) (cells : List Cell) : List Nat :=
  let widths := cells.map fun c => max 1 (c.fullWidth screen)
  let widths := shrink screen (cells.map (·.shrinks)) widths.sum widths
  reduce (widths.sum - screen) (widths.map fun w => ⟨w, if screen < widths.sum then w else 0⟩)

/-- The lines of a row of cells on a screen. Nothing fits a screen without cells. -/
def row (screen : Nat) (cells : List Cell) : List (List Char) :=
  if screen = 0 then []
  else
    let columns := (cells.zip (cellWidths screen cells)).map fun (c, w) => (w, c.linesIn w)
    let height := columns.foldl (fun n (_, lines) => max n lines.length) 1
    (List.range height).map fun i =>
      cut screen (columns.flatMap fun (w, lines) => fit w (lines[i]?.getD []))

end CiVariables.Terminal
