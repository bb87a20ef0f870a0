import ScriptGate.Check.Options
import ScriptGate.Text.Case

/-!
# Project settings

A project keeps its defaults for checks in *settings*: the cap on syntax
errors, the module format, whether to skip the style stage, the allowed global
names and member paths, settings of style rules, and how to log.  Settings are
read from an object of data, the contents of a configuration file, in steps
whose order decides which fault is reported first:

1. the module format, which must be exactly `cjs`, `esm` or `infer`;
2. the rule settings, which must be an object;
3. the skip flag: a string must be one of the switch words, any other value
   counts by its truth;
4. the cap, read the way a count is read from any value: a boolean counts 0
   or 1, a double is cut to its whole part, a string is base-10 digits;
5. the allowed names, then the allowed paths: a string or a list of strings;
6. the logging object;
7. last, the cap must be at least 1.

Before reading, every `${NAME}` inside a string of the data, at any depth, is
replaced by the variable NAME of the environment; a name the environment does
not have keeps its placeholder.  The environment keys its variables by bytes, so
a name that holds a lone surrogate standing for no byte is refused, and the first
such name, or the first collection met again inside itself, stops the reading.  The logging fields are kept as they are
given, and five variables of the environment, when set to a non-empty text,
stand over them: the level (upper-cased), the format (lower-cased), the output
file, and two switches, which are passed over when they are no switch word.

Settings give the options of a check: the caller's fields, read as options are
read, over the settings' own.
-/

namespace ScriptGate

/-- The variables of an environment, by name. -/
abbrev Environment := List (String × String)

namespace Environment

/-- The text of a variable, when it is set and not empty. -/
def given (env : Environment) (name : String) : Option String :=
  match env.lookup name with
  | some v => if v.isEmpty then none else some v
  | none => none

/-- The text after a placeholder's opening, when it goes on with a name and a
closing brace: the name and the rest after the brace. -/
def placeholderName : GlyphText → GlyphText → Option (GlyphText × GlyphText)
  | _, [] => none
  | acc, g :: rest =>
    if g = .scalar '\x7d' then (if acc.isEmpty then none else some (acc.reverse, rest))
    else placeholderName (g :: acc) rest

/-- A placeholder's name and closing brace are taken from the text. -/
theorem placeholderName_rest (acc rest name after : GlyphText)
    (h : placeholderName acc rest = some (name, after)) : after.length < rest.length := by
  induction rest generalizing acc with
  | nil => simp [placeholderName] at h
  | cons g gs ih =>
    unfold placeholderName at h
    split at h
    · split at h
      · simp at h
      · cases h; simp
    · have := ih _ h; simp; omega

/-- A piece of a text, as its placeholders cut it: a glyph between placeholders, or
the name of a placeholder. -/
inductive Piece where
  /-- A glyph of the text. -/
  | glyph (g : Glyph)
  /-- A placeholder, by its name. -/
  | hole (name : GlyphText)
deriving DecidableEq

/-- The pieces of a text: each placeholder `${NAME}` is the leftmost that starts after
the one before it, `NAME` a non-empty run of glyphs up to the first closing brace. -/
def pieces : GlyphText → List Piece
  | [] => []
  | .scalar '$' :: .scalar '\x7b' :: rest =>
    match h : placeholderName [] rest with
    | some (name, after) =>
      have : after.length < rest.length + 2 := by
        have := placeholderName_rest [] rest name after h
        omega
      .hole name :: pieces after
    | none => .glyph (.scalar '$') :: pieces (.scalar '\x7b' :: rest)
  | g :: rest => .glyph g :: pieces rest
termination_by t => t.length

/-- The names of the placeholders of a text, left to right. -/
def placeholderNames (t : GlyphText) : List GlyphText :=
  (pieces t).filterMap fun
    | .hole name => some name
    | .glyph _ => none

/-- The bytes of a glyph as a name of the environment is written: a scalar value in
UTF-8, and a surrogate from U+DC80 to U+DCFF as the byte it escapes.  Any other
surrogate stands for no byte. -/
def glyphBytes : Glyph → Option (List UInt8)
  | .scalar c => some (String.utf8EncodeChar c)
  | .surrogate u => if 0xDC80 ≤ u ∧ u ≤ 0xDCFF then some [(u - 0xDC00).toUInt8] else none

/-- The text of the variable a placeholder names.  The environment keys its variables by
the bytes of their names, so a name is looked up by its bytes: bytes that are no UTF-8
text name no variable, and a name with a glyph that stands for no byte is refused. -/
def valueOf (env : Environment) (name : GlyphText) : Except Refusal (Option String) :=
  match name.mapM glyphBytes with
  | none => .error .unencodable
  | some bytes => .ok (match String.fromUTF8? (ByteArray.mk bytes.flatten.toArray) with
    | some key => env.lookup key
    | none => none)

/-- A placeholder as it is written. -/
def written (name : GlyphText) : GlyphText :=
  .scalar '$' :: .scalar '\x7b' :: name ++ [.scalar '\x7d']

/-- What a piece becomes: a glyph stays, and a placeholder becomes the text of its
variable, or stays as it is written when the environment has no such variable. -/
def expandPiece (env : Environment) : Piece → Except Refusal GlyphText
  | .glyph g => .ok [g]
  | .hole name => do
    match ← env.valueOf name with
    | some v => pure (GlyphText.ofString v)
    | none => pure (written name)

/-- Replaces every placeholder of a text, left to right; each replacement is final. -/
def expand (env : Environment) (t : GlyphText) : Except Refusal GlyphText := do
  let parts ← (pieces t).mapM env.expandPiece
  pure parts.flatten

mutual

/-- A value with the placeholders of all its strings replaced, through lists and the
values of mappings, in order; the keys of mappings, and tuples and sets, stay as they
are.  A collection met again inside itself is followed without end. -/
def substitute (env : Environment) : Value → Except Refusal Value
  | .str s => Value.ofText <$> env.expand (GlyphText.ofString s)
  | .glyphs t => Value.ofText <$> env.expand t
  | .list items => .list <$> substituteItems env items
  | .obj fields => .obj <$> substituteFields env fields
  | .dict entries => .dict <$> substituteEntries env entries
  | .cycle _ => .error .tooDeep
  | v => .ok v

/-- Items with their placeholders replaced. -/
def substituteItems (env : Environment) : List Value → Except Refusal (List Value)
  | [] => .ok []
  | v :: rest => do
    let w ← substitute env v
    let ws ← substituteItems env rest
    pure (w :: ws)

/-- Fields with the placeholders of their values replaced; names stay. -/
def substituteFields (env : Environment) :
    List (String × Value) → Except Refusal (List (String × Value))
  | [] => .ok []
  | (k, v) :: rest => do
    let w ← substitute env v
    let ws ← substituteFields env rest
    pure ((k, w) :: ws)

/-- Entries with the placeholders of their values replaced; keys stay. -/
def substituteEntries (env : Environment) :
    List (Value × Value) → Except Refusal (List (Value × Value))
  | [] => .ok []
  | (k, v) :: rest => do
    let w ← substitute env v
    let ws ← substituteEntries env rest
    pure ((k, w) :: ws)

end

end Environment

namespace Settings

/-- The characters a text may have around a number or a switch word. -/
def isSpace (c : Char) : Bool := Chars.isSplitSpace c

/-- A text without the spaces around it. -/
def strip (s : String) : String :=
  String.ofList ((s.toList.dropWhile isSpace).reverse.dropWhile isSpace).reverse

/-- The switch words that read as on. -/
def onWords : List String := ["true", "1", "yes", "on", "enabled"]

/-- The switch words that read as off. -/
def offWords : List String := ["false", "0", "no", "off", "disabled"]

/-- The switch a text names, in any case and with spaces around it. -/
def switch? (s : String) : Option Bool :=
  let word := strip (Case.lower s)
  if onWords.contains word then some true
  else if offWords.contains word then some false
  else none

/-- The switch a string value names, or the refusal that lists the switch words. -/
def readSwitch (v : Value) (s : String) : Except Refusal Bool :=
  match switch? s with
  | some b => .ok b
  | none =>
    .error (.badValue (some ("Invalid boolean value: " ++ v.describe ++
      ". Expected one of: ['0', '1', 'disabled', 'enabled', 'false', 'no', 'off', 'on', " ++
      "'true', 'yes']")))

/-- Base-10 digits with single underscores between them, as a number. -/
def digitsValue? : List Char → Option Nat
  | [] => none
  | c :: rest =>
    if c.isDigit then
      let rec go (acc : Nat) : List Char → Option Nat
        | [] => some acc
        | ['_'] => none
        | '_' :: d :: more => if d.isDigit then go (acc * 10 + (d.toNat - 48)) more else none
        | d :: more => if d.isDigit then go (acc * 10 + (d.toNat - 48)) more else none
      go (c.toNat - 48) rest
    else none

/-- The integer a text spells in base 10: spaces around it, an optional sign, and
digits of any script with single underscores between them, at most
`Numeral.digitLimit` of them. -/
def integerOfText? (s : String) : Option Int :=
  let cs := Unicode.asciiDigits (strip s).toList
  if (cs.filter Char.isDigit).length > Numeral.digitLimit then none
  else match cs with
    | '-' :: rest => (digitsValue? rest).map fun n => -(n : Int)
    | '+' :: rest => (digitsValue? rest).map fun n => (n : Int)
    | cs => (digitsValue? cs).map fun n => (n : Int)

/-- The whole number a value counts as: a boolean is 0 or 1, a double is cut to its
whole part, a string must spell an integer.  Not-a-number and text that is no
integer are bad values, an infinite double overflows, and any other value has
the wrong type. -/
def countOf : Value → Except Refusal Int
  | .bool b => .ok (if b then 1 else 0)
  | .int n => .ok n
  | .float x =>
    if x.isNaN then .error (.badValue none)
    else match Decimal.truncate x with
      | some n => .ok n
      | none => .error .overflow
  | .str s => match integerOfText? s with
    | some n => .ok n
    | none => .error (.badValue none)
  | .glyphs _ => .error (.badValue none)
  | .bytes data =>
    if data.all (· < 0x80) then
      match integerOfText? (String.ofList (data.map fun b => Char.ofNat b.toNat)) with
      | some n => .ok n
      | none => .error (.badValue none)
    else .error (.badValue none)
  | _ => .error .wrongType

/-- Strings for the setting `key`: one string, or a list of strings. -/
def stringsOf (key : String) : Value → Except Refusal (List String)
  | .str s => .ok [s]
  | .glyphs t => .ok [t.toLossyString]
  | .list items =>
    if items.all fun v => v.string?.isSome then .ok (items.filterMap Value.string?)
    else .error (.misconfigured key "expected a list of strings")
  | _ => .error (.misconfigured key "expected a list of strings")

end Settings

/-- How to log. -/
structure LogSettings where
  /-- The level. -/
  level : Value := .str "WARNING"
  /-- The format of a line. -/
  format : Value := .str "structured"
  /-- A file to write to, if any. -/
  outputFile : Value := .null
  /-- Whether to colour. -/
  useColor : Value := .bool true
  /-- Whether to stamp the time. -/
  includeTimestamp : Value := .bool true
  /-- Whether to show the calls that led to a failure. -/
  backtrace : Value := .bool true
  /-- Whether to show the values of variables in failures. -/
  diagnose : Value := .bool false
deriving Inhabited

namespace LogSettings

/-- Logging as the entries of a mapping give it, with the environment over them. -/
def read (env : Environment) (data : Value) : LogSettings :=
  let given (key : String) (default : Value) : Value := (data.field? key).getD default
  let switch (name key : String) (default : Value) : Value :=
    match (env.given name).bind Settings.switch? with
    | some b => .bool b
    | none => given key default
  { level := match env.given "PUREGATE_LOG_LEVEL" with
      | some v => .str (Case.upper v)
      | none => given "level" (.str "WARNING"),
    format := match env.given "PUREGATE_LOG_FORMAT" with
      | some v => .str (Case.lower v)
      | none => given "format" (.str "structured"),
    outputFile := match env.given "PUREGATE_LOG_FILE" with
      | some v => .str v
      | none => given "output_file" .null,
    useColor := switch "PUREGATE_LOG_COLOR" "use_color" (.bool true),
    includeTimestamp := switch "PUREGATE_LOG_TIMESTAMP" "include_timestamp" (.bool true),
    backtrace := given "backtrace" (.bool true),
    diagnose := given "diagnose" (.bool false) }

/-- Logging as data. -/
def toValue (l : LogSettings) : Value :=
  .obj [("level", l.level), ("format", l.format), ("output_file", l.outputFile),
    ("use_color", l.useColor), ("include_timestamp", l.includeTimestamp),
    ("backtrace", l.backtrace), ("diagnose", l.diagnose)]

end LogSettings

/-- The settings of a project. -/
structure ProjectSettings where
  /-- The most syntax errors reported. -/
  maxErrors : Int := 10
  /-- The module format. -/
  format : ModuleFormat := .infer
  /-- Whether to skip the style stage. -/
  skipStyle : Bool := false
  /-- Forbidden global names that are allowed, in the order given. -/
  allowedNames : List String := []
  /-- Member paths and wildcards that are allowed, in the order given. -/
  allowedMembers : List String := []
  /-- Settings of style rules: a mapping, by rule id. -/
  styleRules : Value := .obj []
  /-- How to log. -/
  logging : LogSettings := {}
deriving Inhabited

namespace ProjectSettings

/-- The settings with nothing given: the defaults, logging under the environment. -/
def defaults (env : Environment) : ProjectSettings := { logging := LogSettings.read env (.obj []) }

/-- The rule settings keyed by strings. -/
def ruleTable (s : ProjectSettings) : RuleTable :=
  match s.styleRules.entries? with
  | some entries => entries.filterMap fun (k, v) => k.string?.map (·, v)
  | none => []

/-- Settings from a mapping of data whose placeholders are already replaced. -/
def ofFields (env : Environment) (data : Value) : Except Refusal ProjectSettings := do
  let given (key : String) : Option Value := data.field? key
  let format ← match given "module_format" with
    | none => pure ModuleFormat.infer
    | some v => match v.string?.bind ModuleFormat.ofName? with
      | some f => pure f
      | none => throw (.misconfigured "module_format"
          ("unknown value " ++ v.describe ++ "; expected cjs, esm or infer"))
  let styleRules ← match given "style_rules" with
    | none => pure (.obj [])
    | some v =>
      if v.entries?.isSome then pure v
      else throw (.misconfigured "style_rules" "expected a mapping of rule id to setting")
  let skipStyle ← match given "skip_style" with
    | none => pure false
    | some v => match v.string? with
      | some s => Settings.readSwitch v s
      | none => pure v.truthy
  let maxErrors ← match given "max_errors" with
    | none => pure 10
    | some v => Settings.countOf v
  let allowedNames ← match given "allowed_identifiers" with
    | none => pure []
    | some v => Settings.stringsOf "allowed_identifiers" v
  let allowedMembers ← match given "allowed_members" with
    | none => pure []
    | some v => Settings.stringsOf "allowed_members" v
  let logging ← match given "logging" with
    | none => pure (LogSettings.read env (.obj []))
    | some v => if v.entries?.isSome then pure (LogSettings.read env v) else throw .missingAttribute
  if maxErrors < 1 then
    throw (.invalidField "max_errors" "must be at least 1" (.int maxErrors))
  return { maxErrors, format, skipStyle, allowedNames, allowedMembers, styleRules, logging }

/-- Settings from data: its placeholders replaced from the environment, then read.
Data that is no mapping has no entries to read, and data that holds itself cannot
have its placeholders replaced. -/
def read (env : Environment) (data : Value) : Except Refusal ProjectSettings := do
  let d ← env.substitute data
  if d.entries?.isSome then ofFields env d else .error .missingAttribute

/-- The settings as option fields. -/
def optionFields (s : ProjectSettings) : List (String × Value) :=
  [("max_errors", .int s.maxErrors), ("module_format", .str s.format.name),
   ("skip_style", .bool s.skipStyle),
   ("allowed_identifiers", .list (s.allowedNames.map Value.str)),
   ("allowed_members", .list (s.allowedMembers.map Value.str)),
   ("style_rules", s.styleRules)]

/-- The options of a check: the caller's fields over the settings' own, read as
options are read. -/
def toOptions (s : ProjectSettings) (overrides : List (String × Value)) :
    Except Refusal CheckOptions :=
  CheckOptions.read (RuleTable.put s.optionFields overrides)

/-- The settings as data. -/
def toValue (s : ProjectSettings) : Value :=
  .obj [("max_errors", .int s.maxErrors), ("module_format", .str s.format.name),
    ("skip_style", .bool s.skipStyle),
    ("allowed_identifiers", .list (s.allowedNames.map Value.str)),
    ("allowed_members", .list (s.allowedMembers.map Value.str)),
    ("style_rules", s.styleRules), ("logging", s.logging.toValue)]

end ProjectSettings

end ScriptGate
