import CiVariables.Remote.Session
import CiVariables.Report.Change
import CiVariables.Terminal.Columns
import CiVariables.Terminal.Markup

/-!
# Progress of a run

Every applied change is told on a line of its own. Where the run has got to is shown by a line with
what is going on, a bar, and a percentage; once nothing is left to do the bar is full. Addresses
stand in these lines as markup, so what is shown of them may differ from what they are, and some
cannot be shown at all.
-/

namespace CiVariables.Report

open CiVariables
open CiVariables.Terminal (Cell)

/-- How far a run has got. -/
structure Progress where
  description : String := "Applying"
  completed : Nat := 0
  total : Nat
  deriving Inhabited

namespace Progress

/-- How many cells wide the bar is if there is room. -/
def barWidth : Nat := 40

/-- The bar in some cells, drawn to half a cell. -/
def bar (p : Progress) (width : Nat) : List Char :=
  let halves := min (2 * width) (2 * width * p.completed / p.total)
  List.replicate (halves / 2) '━' ++ List.replicate (halves % 2) '╸'

/-- The percentage, in three places. -/
def percentage (p : Progress) : List Char :=
  let ds := Nat.toDigits 10 (Double.roundQuotient (100 * p.completed) p.total)
  List.replicate (3 - ds.length) ' ' ++ ds ++ ['%']

/-- What turns while the run goes on. -/
def mark (p : Progress) : Char := if p.completed < p.total then '⠋' else ' '

/-- What is going on, as markup in the style of descriptions. -/
def descriptionMarkup (p : Progress) : String := "[progress.description]" ++ p.description

/-- A character that ends a line of a description. -/
def endsLine (c : Char) : Bool :=
  let n := c.toNat
  n == 10 || (0x1C ≤ n && n ≤ 0x1E) || n == 0x85 || n == 0x2028 || n == 0x2029

/-- The cell with what is going on. It is measured before its tabs are expanded. -/
def descriptionCell (text : List Char) : Cell :=
  { natural := ((text.splitOnP endsLine).map Terminal.width).foldl max 0
    gap := 1
    lines := fun width =>
      (CiVariables.Text.splitLines text).map fun line =>
        Terminal.fitOrElide width (Terminal.trimEnd width (Terminal.expandTabs 0 line)) }

/-- The cells of the progress line. -/
def cells (p : Progress) (description : List Char) : List Cell :=
  [{ natural := 1, gap := 1, shrinks := true, lines := fun _ => [[p.mark]] },
    descriptionCell description,
    { natural := barWidth, gap := 1, shrinks := true
      lines := fun width => [p.bar (min barWidth width)] },
    { natural := p.percentage.length
      lines := fun width => [Terminal.fitOrElide width p.percentage] }]

/-- The lines that show how far the run has got, unless what is going on cannot be shown. -/
def lines (p : Progress) (screen : Nat) : Except Terminal.Markup.Fault (List String) :=
  match Terminal.Markup.plain p.descriptionMarkup with
  | .ok text => .ok ((Terminal.row screen (p.cells text)).map String.ofList)
  | .error fault => .error fault

/-- The progress after an event. -/
def after (p : Progress) : Event → Progress
  | .started address action =>
    { p with description := address ++ ": " ++ (lookOf action).doing ++ "..." }
  | .finished _ _ => { p with completed := p.completed + 1 }
  | _ => p

/-- What is told of an event as markup: only the end of a change is told. -/
def note? : Event → Option String
  | .finished address action => some ("  " ++ address ++ ": " ++ (lookOf action).done)
  | _ => none

/-- The lines that tell of an event, unless they cannot be shown. -/
def noteLines (screen : Nat) (e : Event) : Except Terminal.Markup.Fault (List String) :=
  match note? e with
  | none => .ok []
  | some markup =>
    match Terminal.Markup.plain markup with
    | .ok text => .ok ((Terminal.wrap screen text).map String.ofList)
    | .error fault => .error fault

/-- Follows a run: an event that cannot be shown is refused. -/
def follow (screen : Nat) (e : Event) : Except Failure Unit :=
  match noteLines screen e with
  | .ok _ => .ok ()
  | .error fault => .error (.unshowable fault)

end Progress

end CiVariables.Report
