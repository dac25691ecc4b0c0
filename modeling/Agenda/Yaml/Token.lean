/-!
# Tokens

The parts of which a YAML document consists.  Blocks are delimited by tokens of their own,
which stand for changes of the indentation.
-/

namespace Agenda.Yaml

/-- How a scalar is written. -/
inductive Style where
  | plain
  | singleQuoted
  | doubleQuoted
  | literal
  | folded
deriving DecidableEq, Repr

/-- A text as a value. -/
structure Scalar where
  text : String
  style : Style
deriving DecidableEq, Repr

/-- The name of a type as bytes. -/
abbrev TagName := List UInt8

/-- A part of a document. -/
inductive Token where
  /-- The version of the language. -/
  | version (major minor : Nat)
  /-- An abbreviation for the beginning of tags. -/
  | shorthand (handle : String) (start : TagName)
  | documentStart
  | documentEnd
  | blockSequence
  | blockMapping
  | blockEnd
  | flowSequence
  | flowSequenceEnd
  | flowMapping
  | flowMappingEnd
  /-- The hyphen before an item of a block sequence. -/
  | item
  /-- The comma within a flow collection. -/
  | comma
  | key
  | value
  | alias (name : String)
  | anchor (name : String)
  | tag (handle : String) (suffix : TagName)
  | scalar (s : Scalar)
deriving DecidableEq, Repr

end Agenda.Yaml
