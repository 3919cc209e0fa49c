import CiVariables.Terminal.Width
import CiVariables.Text.Blank

/-!
# Lines that fit the screen

A text is broken into lines between words; a word that is wider than the screen is broken inside.
Blanks stay at the end of a line as far as they fit. Tabs reach to the next multiple of eight cells,
and the controls that would move the cursor are left out.
-/

namespace CiVariables.Terminal

open CiVariables.Text (isSpacing dropRightWhile)

/-- A control that would ring the bell or move the cursor. -/
def isCursorControl (c : Char) : Bool :=
  let n := c.toNat
  n == 7 || n == 8 || n == 11 || n == 12 || n == 13

/-- The text without the controls that would ring the bell or move the cursor. -/
def withoutControls (cs : List Char) : List Char := cs.filter fun c => !isCursorControl c

/-- How far apart tab stops are. -/
def tabStop : Nat := 8

/-- A line with blanks for its tabs; `position` cells stand before it. -/
def expandTabs (position : Nat) : List Char → List Char
  | [] => []
  | c :: rest =>
    if c = '\t' then
      let blanks := tabStop - position % tabStop
      List.replicate blanks ' ' ++ expandTabs (position + blanks) rest
    else c :: expandTabs (position + charWidth c) rest

/-- The first word of a line with the blanks around it, and the rest. -/
def nextWord (cs : List Char) : List Char × List Char :=
  let before := cs.takeWhile isSpacing
  let cs := cs.drop before.length
  let word := cs.takeWhile fun c => !isSpacing c
  let cs := cs.drop word.length
  let after := cs.takeWhile isSpacing
  (before ++ word ++ after, cs.drop after.length)

theorem length_nextWord_lt (c : Char) (cs : List Char) :
    (nextWord (c :: cs)).2.length < (c :: cs).length := by
  unfold nextWord
  by_cases h : isSpacing c = true
  · simp only [List.takeWhile_cons, h, if_true, List.length_cons, List.drop_succ_cons,
      List.length_drop]
    omega
  · simp only [List.takeWhile_cons, h, List.length_cons, List.length_drop, Bool.false_eq_true,
      if_false, List.length_nil, List.drop_zero, Bool.not_false, if_true, List.drop_succ_cons]
    omega

/-- The words of a line; the blanks after a word belong to it, those before the first word as
well. -/
def words : List Char → List (List Char)
  | [] => []
  | c :: rest => (nextWord (c :: rest)).1 :: words (nextWord (c :: rest)).2
  termination_by cs => cs.length
  decreasing_by exact length_nextWord_lt c rest

/-- A text in pieces of at most some cells, as far as its characters allow. -/
def chop (n : Nat) (cs : List Char) : List (List Char) :=
  let (pieces, last, _) := cs.foldl
    (fun (acc : List (List Char) × List Char × Nat) c =>
      let (pieces, piece, used) := acc
      if n < used + charWidth c then (piece.reverse :: pieces, [c], charWidth c)
      else (pieces, c :: piece, used + charWidth c)) ([], [], 0)
  (last.reverse :: pieces).reverse

/-- Lines that are being filled: the finished ones, the last of them first, the line at work, and
how many cells are taken there. -/
structure Filling where
  done : List (List Char) := []
  line : List Char := []
  used : Nat := 0

namespace Filling

def isStarted (f : Filling) : Bool := !f.done.isEmpty || !f.line.isEmpty

/-- Puts a piece on a new line, which is the first if there is nothing yet. -/
def onNewLine (f : Filling) (piece : List Char) : Filling :=
  { done := if f.isStarted then f.line :: f.done else f.done, line := piece, used := width piece }

/-- Puts a word where it fits. -/
def add (n : Nat) (f : Filling) (word : List Char) : Filling :=
  let needed := width (dropRightWhile isSpacing word)
  if f.used + needed ≤ n then { f with line := f.line ++ word, used := f.used + width word }
  else if n < needed then (chop n word).foldl onNewLine f
  else f.onNewLine word

/-- The lines in order. -/
def lines (f : Filling) : List (List Char) := (f.line :: f.done).reverse

end Filling

/-- A line without those blanks at its end that go beyond some cells. -/
def trimEnd (n : Nat) (line : List Char) : List Char :=
  let blanks := line.length - (dropRightWhile isSpacing line).length
  line.take (line.length - min blanks (line.length - n))

/-- A line broken into lines of some cells. -/
def wrapLine (n : Nat) (line : List Char) : List (List Char) :=
  (((words (expandTabs 0 line)).foldl (Filling.add n) {}).lines.map (trimEnd n)).map (cut n)

/-- A text broken into lines of some cells. Nothing fits a screen without cells. -/
def wrap (n : Nat) (text : List Char) : List (List Char) :=
  if n = 0 then [] else (CiVariables.Text.splitLines (withoutControls text)).flatMap (wrapLine n)

end CiVariables.Terminal
