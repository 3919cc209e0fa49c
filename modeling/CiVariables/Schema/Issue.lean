import CiVariables.Schema.Value

/-!
# Schema issues

What is wrong with a piece of data, and where. A path leads from the top of the data to the place:
member names and list positions. The wording of a structural issue depends on whether loose data
or JSON text is being checked.
-/

namespace CiVariables.Schema

/-- Where the data comes from. -/
inductive Source where
  /-- Values in memory, such as a parsed declaration file. -/
  | data
  /-- JSON text, such as a plan file. -/
  | text
  deriving DecidableEq, Inhabited

/-- One step of a path. -/
inductive Step where
  | name (s : String)
  | index (n : Int)
  deriving DecidableEq, Inhabited

def Step.ofKey : Key → Step
  | .text s => .name (CiVariables.Text.replaceHalves s)
  | .bytes content => .name (CiVariables.Text.quotedBytes content)
  | .int n => .index n
  | .other label => .name label

/-- What can be wrong with a value. -/
inductive IssueKind where
  | missing
  | extraForbidden
  | invalidKey
  | stringType
  | stringUnicode
  | stringTooShort
  | stringPatternMismatch (pattern : String)
  | boolType
  | boolParsing
  | intType
  | intParsing
  | intParsingSize
  | intFromFloat
  | finiteNumber
  | enum (expected : String)
  | dictType (source : Source)
  | listType (source : Source)
  | modelType (source : Source) (model : String)
  | datetimeType
  | datetimeParsing
  | datetimeFromDateParsing
  | jsonInvalid
  deriving DecidableEq, Inhabited

namespace IssueKind

/-- The sort of an issue in one word. -/
def name : IssueKind → String
  | missing => "missing"
  | extraForbidden => "extra_forbidden"
  | invalidKey => "invalid_key"
  | stringType => "string_type"
  | stringUnicode => "string_unicode"
  | stringTooShort => "string_too_short"
  | stringPatternMismatch _ => "string_pattern_mismatch"
  | boolType => "bool_type"
  | boolParsing => "bool_parsing"
  | intType => "int_type"
  | intParsing => "int_parsing"
  | intParsingSize => "int_parsing_size"
  | intFromFloat => "int_from_float"
  | finiteNumber => "finite_number"
  | enum _ => "enum"
  | dictType _ => "dict_type"
  | listType _ => "list_type"
  | modelType _ _ => "model_type"
  | datetimeType => "datetime_type"
  | datetimeParsing => "datetime_parsing"
  | datetimeFromDateParsing => "datetime_from_date_parsing"
  | jsonInvalid => "json_invalid"

/-- What is told of an issue. -/
def message : IssueKind → String
  | missing => "Field required"
  | extraForbidden => "Extra inputs are not permitted"
  | invalidKey => "Keys should be strings"
  | stringType => "Input should be a valid string"
  | stringUnicode =>
    "Input should be a valid string, unable to parse raw data as a unicode string"
  | stringTooShort => "String should have at least 1 character"
  | stringPatternMismatch pattern => "String should match pattern '" ++ pattern ++ "'"
  | boolType => "Input should be a valid boolean"
  | boolParsing => "Input should be a valid boolean, unable to interpret input"
  | intType => "Input should be a valid integer"
  | intParsing => "Input should be a valid integer, unable to parse string as an integer"
  | intParsingSize => "Unable to parse input string as an integer, exceeded maximum size"
  | intFromFloat => "Input should be a valid integer, got a number with a fractional part"
  | finiteNumber => "Input should be a finite number"
  | enum expected => "Input should be " ++ expected
  | dictType .data => "Input should be a valid dictionary"
  | dictType .text => "Input should be an object"
  | listType .data => "Input should be a valid list"
  | listType .text => "Input should be a valid array"
  | modelType .data model => "Input should be a valid dictionary or instance of " ++ model
  | modelType .text _ => "Input should be an object"
  | datetimeType => "Input should be a valid datetime"
  | datetimeParsing => "Input should be a valid datetime"
  | datetimeFromDateParsing => "Input should be a valid datetime or date"
  | jsonInvalid => "Invalid JSON"

end IssueKind

/-- One thing that is wrong, and where. -/
structure Issue where
  path : List Step
  kind : IssueKind
  deriving DecidableEq, Inhabited

/-- The issue seen from one step further out. -/
def Issue.under (step : Step) (issue : Issue) : Issue := { issue with path := step :: issue.path }

end CiVariables.Schema
