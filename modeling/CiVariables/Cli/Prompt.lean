import CiVariables.Text.Utf8

/-!
# Questions

A question is asked again until a line answers it with yes or no; an empty line means no. The lines
that were typed appear after the question.
-/

namespace CiVariables.Cli

/-- What came of a question. -/
inductive Reply where
  | yes
  | no
  /-- The input ended before there was an answer. -/
  | ended
  deriving DecidableEq, Inhabited

namespace Prompt

/-- The lines of an input, whatever ends them. -/
def lines (input : String) : List String :=
  let ls := CiVariables.Text.splitLines (Utf8.unifyNewlines input.toList)
  let ended := match ls.getLast? with
    | some [] => ls.dropLast
    | _ => ls
  ended.map String.ofList

/-- The answer that a line gives, if it gives one. -/
def answer? (line : String) : Option Reply :=
  let word := CiVariables.Text.lower
    (String.ofList (CiVariables.Text.trimBoth CiVariables.Text.isSpacing line.toList))
  if word = "y" ∨ word = "yes" then some .yes
  else if word = "n" ∨ word = "no" ∨ word = "" then some .no
  else none

/-- What is shown before an answer is typed. -/
def invitation (question : String) : String := question ++ " [y/N]: "

/-- Asks until there is an answer: what is shown, the answer, and the lines left. -/
def ask (question : String) : List String → String × Reply × List String
  | [] => (invitation question, .ended, [])
  | line :: rest =>
    let shown := invitation question ++ line ++ "\n"
    match answer? line with
    | some reply => (shown, reply, rest)
    | none =>
      let (more, reply, left) := ask question rest
      (shown ++ "Error: invalid input\n" ++ more, reply, left)

end Prompt

end CiVariables.Cli
