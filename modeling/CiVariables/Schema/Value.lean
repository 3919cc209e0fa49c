import CiVariables.Json.Basic
import CiVariables.Text.Utf8

/-!
# Loose data

What a document holds before it is checked: JSON-like values whose mappings may have keys other
than text, and scalars that have no JSON form. JSON values embed into it.
-/

namespace CiVariables.Schema

/-- A mapping key. -/
inductive Key where
  | text (s : String)
  | bytes (content : List UInt8)
  /-- A number that fits in 64 bits. -/
  | int (n : Int)
  /-- Any other scalar, by the text that names it in messages. -/
  | other (label : String)
  deriving DecidableEq, Inhabited

/-- A value of a document. -/
inductive Value where
  | null
  | bool (b : Bool)
  | int (n : Int)
  | float (x : Double)
  | text (s : String)
  | bytes (content : List UInt8)
  | list (items : List Value)
  /-- A collection without order or repetition. -/
  | set (items : List Value)
  | map (entries : List (Key × Value))
  /-- A value of another kind, by the name of its kind. -/
  | foreign (kind : String)
  deriving Inhabited

/-- The entries of a mapping. -/
abbrev Entries := List (Key × Value)

namespace Entries

/-- The first entry under a textual key. -/
def get? (entries : Entries) (name : String) : Option Value := entries.lookup (.text name)

/-- Replaces the value at a text key in place, or adds it at the end. -/
def set : Entries → String → Value → Entries
  | [], name, value => [(.text name, value)]
  | (k, v) :: rest, name, value =>
    if k = .text name then (k, value) :: rest else (k, v) :: set rest name value

end Entries

namespace Value

mutual

/-- A JSON value as loose data. -/
def ofJson : Json → Value
  | .null => .null
  | .bool b => .bool b
  | .int n => .int n
  | .float x => .float x
  | .str s => .text s
  | .arr items => .list (ofItems items)
  | .obj fields => .map (ofFields fields)

/-- Items as loose data. -/
def ofItems : List Json → List Value
  | [] => []
  | j :: rest => ofJson j :: ofItems rest

/-- Object members as entries with text keys. -/
def ofFields : List (String × Json) → List (Key × Value)
  | [] => []
  | (k, j) :: rest => (.text k, ofJson j) :: ofFields rest

end

mutual

/-- Loose data as JSON; what has no JSON form is null. -/
def toJson : Value → Json
  | .null | .bytes _ | .foreign _ => .null
  | .bool b => .bool b
  | .int n => .int n
  | .float x => .float x
  | .text s => .str s
  | .list items | .set items => .arr (toItems items)
  | .map entries => .obj (toFields entries)

/-- Items as JSON. -/
def toItems : List Value → List Json
  | [] => []
  | v :: rest => toJson v :: toItems rest

/-- Entries with text keys as object members. -/
def toFields : List (Key × Value) → List (String × Json)
  | [] => []
  | (.text k, v) :: rest => (k, toJson v) :: toFields rest
  | _ :: rest => toFields rest

end

/-- The value counts as nothing given: null, false, zero or empty. -/
def isFalsy : Value → Bool
  | .null => true
  | .bool b => !b
  | .int n => n == 0
  | .float x => x.isZero
  | .text s => s == ""
  | .bytes content => content.isEmpty
  | .list items | .set items => items.isEmpty
  | .map entries => entries.isEmpty
  | .foreign _ => false

def kindName : Value → String
  | .null => "NoneType"
  | .bool _ => "bool"
  | .int _ => "int"
  | .float _ => "float"
  | .text _ => "str"
  | .bytes _ => "bytes"
  | .list _ => "list"
  | .set _ => "set"
  | .map _ => "dict"
  | .foreign kind => kind

end Value

end CiVariables.Schema
