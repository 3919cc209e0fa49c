import CiVariables.Decimal.Shortest
import CiVariables.Json.Basic
import CiVariables.Text.Quoted

/-!
# Values on one line

How a nested value is shown to people: lists and objects on one line, texts inside them in quotes,
and the words `None`, `True` and `False`.
-/

namespace CiVariables.Json

mutual

/-- The text of a value with all that it holds. -/
def inline : Json → String
  | .null => "None"
  | .bool true => "True"
  | .bool false => "False"
  | .int n => toString n
  | .float x => x.display
  | .str s => CiVariables.Text.quoted s
  | .arr items => "[" ++ inlineItems items ++ "]"
  | .obj fields => "\x7b" ++ inlineFields fields ++ "\x7d"

def inlineItems : List Json → String
  | [] => ""
  | [j] => inline j
  | j :: rest => inline j ++ ", " ++ inlineItems rest

def inlineFields : List (String × Json) → String
  | [] => ""
  | [(k, j)] => CiVariables.Text.quoted k ++ ": " ++ inline j
  | (k, j) :: rest => CiVariables.Text.quoted k ++ ": " ++ inline j ++ ", " ++ inlineFields rest

end

/-- The name of the sort of a value. -/
def kindName : Json → String
  | .null => "NoneType"
  | .bool _ => "bool"
  | .int _ => "int"
  | .float _ => "float"
  | .str _ => "str"
  | .arr _ => "list"
  | .obj _ => "dict"

end CiVariables.Json
