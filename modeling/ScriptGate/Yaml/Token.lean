import ScriptGate.Refusal

/-!
# YAML tokens

A YAML text is read in three steps: its characters become *tokens*, the
tokens become *events*, and the events become a graph of *nodes*, from which
values are built.  This module holds the tokens.

A token is an indicator of structure (the start of a document, a block
collection opening at an indentation, a flow bracket, a key or value mark, an
entry dash or comma), a property of the node that follows (an anchor or a
tag), a reference to an anchored node (an alias), or a scalar with its text.
Block collections have no brackets in the text; the lexer supplies their
starts and ends from the indentation.

Scalar text is kept as glyphs: an escape in a double-quoted scalar may name a
lone surrogate.
-/

namespace ScriptGate.Yaml

/-- What reading a YAML text gives at a step: a result, or why the text does not
read. -/
abbrev Result (α : Type) := Except Refusal α

/-- A fault at a stage of reading. -/
def fault {α : Type} (stage : YamlStage) : Result α := .error (.malformedYaml stage)

/-- How a scalar is written. -/
inductive ScalarStyle where
  /-- Without quotes. -/
  | plain
  /-- Between single quotes. -/
  | singleQuoted
  /-- Between double quotes, with escapes. -/
  | doubleQuoted
  /-- A literal block, `|`. -/
  | literal
  /-- A folded block, `>`. -/
  | folded
deriving DecidableEq, Inhabited

/-- The value of a directive line. -/
inductive Directive where
  /-- `%YAML major.minor`. -/
  | version (major minor : Nat)
  /-- `%TAG handle prefix`. -/
  | tagPrefix (handle pre : String)
  /-- A directive of another name, which is passed over. -/
  | other (name : String)
deriving Inhabited

/-- A token of a YAML text. -/
inductive Token where
  /-- The start of the text. -/
  | streamStart
  /-- The end of the text. -/
  | streamEnd
  /-- A directive line. -/
  | directive (d : Directive)
  /-- `---`. -/
  | documentStart
  /-- `...`. -/
  | documentEnd
  /-- A block sequence opens at an indentation. -/
  | blockSequenceStart
  /-- A block mapping opens at an indentation. -/
  | blockMappingStart
  /-- A block collection closes. -/
  | blockEnd
  /-- `[`. -/
  | flowSequenceStart
  /-- `{`. -/
  | flowMappingStart
  /-- `]`. -/
  | flowSequenceEnd
  /-- `}`. -/
  | flowMappingEnd
  /-- A key follows: `?`, or supplied before a key that a `:` proves to be one. -/
  | key
  /-- `:`, a value follows. -/
  | value
  /-- `-`, an entry of a block sequence. -/
  | blockEntry
  /-- `,`, between entries of a flow collection. -/
  | flowEntry
  /-- `*name`. -/
  | alias (name : String)
  /-- `&name`. -/
  | anchor (name : String)
  /-- `!handle!suffix`, `!suffix`, `!<uri>` or `!`; a verbatim tag has no handle. -/
  | tag (handle : Option String) (suffix : String)
  /-- A scalar, its text and style. -/
  | scalar (text : GlyphText) (style : ScalarStyle)
deriving Inhabited

namespace Token

/-- Whether two tokens are of one kind, whatever they carry. -/
def sameKind : Token → Token → Bool
  | .streamStart, .streamStart | .streamEnd, .streamEnd | .directive _, .directive _
  | .documentStart, .documentStart | .documentEnd, .documentEnd
  | .blockSequenceStart, .blockSequenceStart | .blockMappingStart, .blockMappingStart
  | .blockEnd, .blockEnd | .flowSequenceStart, .flowSequenceStart
  | .flowMappingStart, .flowMappingStart | .flowSequenceEnd, .flowSequenceEnd
  | .flowMappingEnd, .flowMappingEnd | .key, .key | .value, .value | .blockEntry, .blockEntry
  | .flowEntry, .flowEntry | .alias _, .alias _ | .anchor _, .anchor _ | .tag .., .tag ..
  | .scalar .., .scalar .. => true
  | _, _ => false

end Token

end ScriptGate.Yaml
