/-!
# Blanks and letter case

`isBlank` is the Unicode property White_Space. `isSpacing` adds the four information separators,
which count as space where words are split and lines are trimmed. Case is folded for the ASCII
letters, and for the few letters beyond them whose other case is ASCII.
-/

namespace CiVariables.Text

/-- A blank in the sense of Unicode. -/
def isBlank (c : Char) : Bool :=
  let n := c.toNat
  (9 ≤ n && n ≤ 13) || n == 32 || n == 0x85 || n == 0xA0 || n == 0x1680 ||
    (0x2000 ≤ n && n ≤ 0x200A) || n == 0x2028 || n == 0x2029 || n == 0x202F || n == 0x205F ||
    n == 0x3000

/-- A character that separates words: a blank, or one of the four separators of files, groups,
records and units. -/
def isSpacing (c : Char) : Bool := isBlank c || (0x1C ≤ c.toNat && c.toNat ≤ 0x1F)

def dropRightWhile (p : Char → Bool) (cs : List Char) : List Char :=
  (cs.reverse.dropWhile p).reverse

/-- A text without the characters of a sort at its ends. -/
def trimBoth (p : Char → Bool) (cs : List Char) : List Char :=
  dropRightWhile p (cs.dropWhile p)

/-- The lower case of a letter whose lower case is ASCII: the Kelvin sign is a `k`. -/
def lowerChar (c : Char) : Char := if c.toNat = 0x212A then 'k' else c.toLower

def lower (s : String) : String := String.ofList (s.toList.map lowerChar)

/-- The upper case of a letter whose upper case is ASCII: the dotless i and the long s have one. -/
def upperChar (c : Char) : Char :=
  if c.toNat = 0x131 then 'I' else if c.toNat = 0x17F then 'S' else c.toUpper

def upper (s : String) : String := String.ofList (s.toList.map upperChar)

/-- The lines of a text; a line feed at the end starts an empty one. -/
def splitLines (cs : List Char) : List (List Char) :=
  cs.foldr (fun c acc =>
    if c = '\n' then [] :: acc
    else match acc with
      | [] => [[c]]
      | line :: rest => (c :: line) :: rest) [[]]

/-- One list of characters starts with another. -/
def startsWith : List Char → List Char → Bool
  | _, [] => true
  | [], _ :: _ => false
  | c :: cs, p :: ps => c == p && startsWith cs ps

/-- One list of characters occurs inside another. -/
def containsSublist (cs part : List Char) : Bool :=
  match cs with
  | [] => part.isEmpty
  | c :: rest => startsWith (c :: rest) part || containsSublist rest part

/-- One text occurs inside another. -/
def contains (s part : String) : Bool := containsSublist s.toList part.toList

def join (separator : String) : List String → String
  | [] => ""
  | [s] => s
  | s :: rest => s ++ separator ++ join separator rest

end CiVariables.Text
