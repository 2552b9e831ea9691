/-!
# Tokens of a YAML text

A token is an indicator, an opening or closing of a block that indentation implies, a node
property, or a scalar with its style. The key token in front of a simple key is put there
after the key has been read, when the colon behind it is met.
-/

namespace PgWrite.Yaml

/-- How a scalar is written. -/
inductive ScalarStyle where
  | plain
  | quoted
  deriving DecidableEq, Repr

/-- A directive in front of a document. -/
inductive Directive where
  | yaml (major minor : Nat)
  | tag (handle start : List Char)
  /-- A directive of another name, which is passed over. -/
  | reserved
  deriving DecidableEq, Repr

/-- A token of a YAML text. -/
inductive Token where
  | streamEnd
  | directive (d : Directive)
  | documentStart
  | documentEnd
  | blockSequenceStart
  | blockMappingStart
  | blockEnd
  | flowSequenceStart
  | flowMappingStart
  | flowSequenceEnd
  | flowMappingEnd
  | blockEntry
  | flowEntry
  | key
  | value
  | alias (name : List Char)
  | anchor (name : List Char)
  | tag (handle : Option (List Char)) (suffix : List Char)
  | scalar (text : List Char) (style : ScalarStyle)
  deriving DecidableEq, Repr

end PgWrite.Yaml
