/-!
# YAML tokens

A stream is cut into indicators, names and scalars. The block structure, which the text shows by
indentation, becomes explicit: starts and ends of block collections are tokens of their own.
-/

namespace CiVariables.Yaml

/-- A piece of a stream. -/
inductive Token where
  | versionDirective (major minor : Nat)
  | tagDirective (handle expansion : List Char)
  | otherDirective
  | documentStart
  | documentEnd
  | blockSequenceStart
  | blockMappingStart
  | blockEnd
  | flowSequenceStart
  | flowSequenceEnd
  | flowMappingStart
  | flowMappingEnd
  | blockEntry
  | flowEntry
  | key
  | value
  | alias (name : List Char)
  | anchor (name : List Char)
  /-- A tag: a handle, unless it is verbatim, and the rest of its name. -/
  | tag (handle : Option (List Char)) (suffix : List Char)
  | scalar (text : List Char) (isPlain : Bool)
  deriving DecidableEq, Inhabited

end CiVariables.Yaml
