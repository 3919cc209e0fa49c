import CiVariables.Terminal.Emoji
import CiVariables.Terminal.Style
import CiVariables.Terminal.Wrap

/-!
# Markup

Text may say in square brackets how it is to look: a tag opens a style, a tag with a slash closes
one. `Markup.plain` is the text that is left on a screen without colors: without its tags, with
emoji in the place of their names. A backslash before a tag makes it plain text. A closing tag needs
an open one that it can close.
-/

namespace CiVariables.Terminal.Markup

open CiVariables.Text (isSpacing trimBoth)

/-- What stands in the brackets of a tag: a name, and perhaps parameters after an equals sign. -/
structure Tag where
  name : String
  parameters : Option String := none
  deriving DecidableEq, Inhabited

/-- The tag as it is written. -/
def Tag.text (t : Tag) : String :=
  "[" ++ t.name ++
    (match t.parameters with
      | some ps => "=" ++ ps
      | none => "") ++ "]"

/-- The tag of a text between brackets. What follows an equals sign is its parameter. -/
def Tag.ofContent (cs : List Char) : Tag :=
  match cs.dropWhile (· != '=') with
  | [] => ⟨String.ofList cs, none⟩
  | _ :: ps => ⟨String.ofList (cs.takeWhile (· != '=')), some (String.ofList ps)⟩

/-- A piece of a text with markup. -/
inductive Piece where
  | plain (cs : List Char)
  /-- A tag, and how many characters stand before it. -/
  | tag (position : Nat) (t : Tag)
  deriving DecidableEq, Inhabited

/-- What can be wrong with markup. -/
inductive Fault where
  /-- A closing tag whose style is not open. -/
  | unopened (t : Tag) (position : Nat)
  /-- A tag that closes the last style, but none is open. -/
  | nothingOpen (position : Nat)
  deriving DecidableEq, Inhabited

/-- What is told of markup that cannot be shown. -/
def Fault.message : Fault → String
  | unopened t position =>
    "closing tag '" ++ t.text ++ "' at position " ++ toString position ++
      " doesn't match any open tag"
  | nothingOpen position =>
    "closing tag '[/]' at position " ++ toString position ++ " has nothing to close"

/-- The character can be the first of a tag. -/
def startsTag (c : Char) : Bool := ('a' ≤ c && c ≤ 'z') || c == '#' || c == '/' || c == '@'

/-- The backslashes and the content of a tag that a text starts with, and what is left after it. -/
def tag? (cs : List Char) : Option (Nat × List Char × List Char) :=
  let slashes := cs.takeWhile (· == '\\')
  match cs.drop slashes.length with
  | '[' :: c :: rest =>
    if startsTag c then
      let content := rest.takeWhile fun d => d != '[' && d != ']'
      match rest.drop content.length with
      | ']' :: after => some (slashes.length, c :: content, after)
      | _ => none
    else none
  | _ => none

theorem length_tag? {cs content after : List Char} {n : Nat}
    (h : tag? cs = some (n, content, after)) : after.length < cs.length := by
  unfold tag? at h
  simp only at h
  split at h
  · next c rest heq =>
    split at h
    · split at h
      · next heq' =>
        cases h
        have h₁ := congrArg List.length heq
        have h₂ := congrArg List.length heq'
        simp at h₁ h₂
        omega
      · simp at h
    · simp at h
  · simp at h

/-- The pieces that a tag gives with the backslashes before it: every two of them are one, and a
single one more makes the tag plain. -/
def tagPieces (position slashes : Nat) (content : List Char) : List Piece :=
  (if slashes < 2 then [] else [.plain (List.replicate (slashes / 2) '\\')]) ++
    if slashes % 2 = 1 then [.plain ('[' :: content ++ [']'])]
    else [.tag (position + slashes) (Tag.ofContent content)]

/-- The pieces of a text of which `position` characters are read, and the last of them in
`pending`, in reverse. -/
def piecesFrom (position : Nat) (pending cs : List Char) : List Piece :=
  let before := if pending.isEmpty then [] else [Piece.plain pending.reverse]
  match h : tag? cs with
  | some (slashes, content, after) =>
    have := length_tag? h
    before ++ tagPieces position slashes content ++
      piecesFrom (position + slashes + content.length + 2) [] after
  | none =>
    match cs with
    | [] => before
    | c :: rest => piecesFrom (position + 1) (c :: pending) rest
  termination_by cs.length

/-- The pieces of a text with markup. -/
def pieces (cs : List Char) : List Piece := piecesFrom 0 [] cs

/-- Brackets without the backslashes before them. -/
def unescape : List Char → List Char
  | '\\' :: '[' :: rest => '[' :: unescape rest
  | c :: rest => c :: unescape rest
  | [] => []

/-- The open styles after a tag; the last one opened comes first. -/
def follow (position : Nat) (t : Tag) (styles : List String) : Except Fault (List String) :=
  match t.name.toList with
  | '/' :: rest =>
    match trimBoth isSpacing rest with
    | [] =>
      match styles with
      | [] => .error (.nothingOpen position)
      | _ :: left => .ok left
    | name =>
      let name := Style.normalName (String.ofList name)
      if styles.contains name then .ok (styles.erase name) else .error (.unopened t position)
  | _ => .ok (Style.normalName t.name :: styles)

/-- The characters that pieces show while some styles are open, the last one opened first. -/
def plainFrom (styles : List String) : List Piece → Except Fault (List Char)
  | [] => .ok []
  | .plain cs :: rest =>
    (plainFrom styles rest).map (withoutControls (Emoji.replace (unescape cs)) ++ ·)
  | .tag position t :: rest =>
    match follow position t styles with
    | .ok styles => plainFrom styles rest
    | .error fault => .error fault

/-- The text without its markup. -/
def plain (text : String) : Except Fault (List Char) := plainFrom [] (pieces text.toList)

end CiVariables.Terminal.Markup
