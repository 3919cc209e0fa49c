/-!
# Terminal text

Colored text is wrapped in escape sequences that a terminal obeys. `Terminal.strip` deletes them
again, which leaves the text itself.
-/

namespace CiVariables.Terminal

/-- The colors in use. -/
inductive Color where
  | green
  | yellow
  | red
  | brightBlack
  deriving DecidableEq, Inhabited

def Color.code : Color → String
  | green => "32"
  | yellow => "33"
  | red => "31"
  | brightBlack => "90"

def escape : Char := '\x1b'

def sequence (code : String) : String := String.ofList (escape :: '[' :: code.toList ++ ['m'])

def reset : String := sequence "0"

/-- Text with a color, bold or not, and all attributes ended after it. -/
def style (color : Option Color) (bold : Bool) (text : String) : String :=
  (match color with | some c => sequence c.code | none => "") ++
    (if bold then sequence "1" else "") ++ text ++ reset

/-- Colored text, or the text alone. -/
def styleIf (enabled : Bool) (color : Color) (bold : Bool) (text : String) : String :=
  if enabled then style (some color) bold text else text

/-- A character between the start and the end of an escape sequence. -/
def isParameter (c : Char) : Bool := c.isDigit || c == ';' || c == '?'

/-- What is left after the parameters and the final letter of an escape sequence. -/
def afterSequence? : List Char → Option (List Char)
  | [] => none
  | c :: rest =>
    if isParameter c then afterSequence? rest
    else if c.isAlpha then some rest
    else none

theorem length_afterSequence? {cs rest : List Char} (h : afterSequence? cs = some rest) :
    rest.length < cs.length := by
  induction cs with
  | nil => simp [afterSequence?] at h
  | cons c cs ih =>
    simp only [afterSequence?] at h
    split at h
    · exact Nat.lt_succ_of_lt (ih h)
    · split at h
      · cases h
        simp
      · simp at h

/-- The characters without their escape sequences. -/
def stripChars : List Char → List Char
  | [] => []
  | [c] => [c]
  | c :: d :: rest =>
    if c = escape ∧ d = '[' then
      match h : afterSequence? rest with
      | some after =>
        have : after.length < rest.length + 2 :=
          Nat.lt_of_lt_of_le (length_afterSequence? h) (by omega)
        stripChars after
      | none => c :: stripChars (d :: rest)
    else c :: stripChars (d :: rest)
  termination_by cs => cs.length

/-- A text without its escape sequences. -/
def strip (s : String) : String := String.ofList (stripChars s.toList)

end CiVariables.Terminal
