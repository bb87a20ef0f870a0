import ScriptGate.Refusal
import ScriptGate.Style.Setting
import ScriptGate.Syntax.ModuleFormat
import ScriptGate.Decimal.Text
import ScriptGate.Syntax.Chars

/-!
# Options of a check

A check runs under *options*: a file name for locations, the module format, whether
to skip the style stage, settings of style rules over the defaults, a cap on
syntax errors (at least 1), and the global names and member paths that the purity
analysis lets through.

Options arrive as an object of data and are read leniently, field by field:

* the file name is a string or null;
* the format is exactly `cjs`, `esm` or `infer`;
* the flag is a boolean, `0` or `1` (also as `0.0` or `1.0`), or one of the
  words `0`, `1`, `f`, `t`, `n`, `y`, `no`, `yes`, `off`, `on`, `false`,
  `true` in any case of letters;
* the cap is an integer, a boolean, a double without a fraction, or a string
  of an optional sign and digits, blanks around it and zeros after a point
  allowed;
* the rules are an object, and the names and paths are lists of strings.

Every field that fails is named with the kind of its failure, in the order of
the fields, an item of a list by its index after a dot; fields that are not
options come last, each as `extra_forbidden`.
-/

namespace ScriptGate

/-- The options of a check. -/
structure CheckOptions where
  /-- The file named in locations. -/
  file : Option String := none
  /-- The module format to read the source in. -/
  format : ModuleFormat := .infer
  /-- Whether to skip the style stage. -/
  skipStyle : Bool := false
  /-- Settings of style rules, over the defaults. -/
  styleRules : RuleTable := []
  /-- The most syntax errors reported. -/
  maxErrors : Nat := 10
  /-- Forbidden global names that are allowed. -/
  allowedNames : List String := []
  /-- Member paths and wildcards that are allowed. -/
  allowedMembers : List String := []
deriving Inhabited

namespace CheckOptions

/-- The option fields, in order. -/
def fieldNames : List String :=
  ["filename", "module_format", "skip_style", "style_rules", "max_errors",
   "allowed_identifiers", "allowed_members"]

/-- The words that read as false. -/
def falseWords : List String := ["0", "f", "n", "no", "off", "false"]

/-- The words that read as true. -/
def trueWords : List String := ["1", "t", "y", "on", "yes", "true"]

/-- A file name: a string, or null for none. -/
def readFile : Value → Except String (Option String)
  | .null => .ok none
  | .str s => .ok (some s)
  | .glyphs t => .ok (some t.toLossyString)
  | _ => .error "string_type"

/-- A module format, spelled exactly. -/
def readFormat (v : Value) : Except String ModuleFormat :=
  match v.string?.bind ModuleFormat.ofName? with
  | some f => .ok f
  | none => .error "enum"

/-- A flag from a number that may stand for one. -/
def flagOfInt (n : Int) : Except String Bool :=
  if n = 0 then .ok false else if n = 1 then .ok true else .error "bool_parsing"

/-- A flag. -/
def readFlag : Value → Except String Bool
  | .bool b => .ok b
  | .int n => flagOfInt n
  | .float x =>
    if Decimal.isWhole x then
      match Decimal.truncate x with
      | some n => flagOfInt n
      | none => .error "bool_type"
    else .error "bool_type"
  | v =>
    match v.string? with
    | some s =>
      let lower := String.ofList (s.toList.map Char.toLower)
      if falseWords.contains lower then .ok false
      else if trueWords.contains lower then .ok true
      else .error "bool_parsing"
    | none => .error "bool_type"

/-- The integer a string of an optional sign and digits spells. -/
def integerText? (s : String) : Option Int :=
  let (negative, digits) := match s.toList with
    | '-' :: rest => (true, rest)
    | '+' :: rest => (false, rest)
    | cs => (false, cs)
  if digits.isEmpty || !digits.all Char.isDigit then none
  else
    let n : Nat := digits.foldl (fun acc c => acc * 10 + (c.toNat - '0'.toNat)) 0
    some (if negative then -(n : Int) else n)

/-- A string's text without blanks around it. -/
def trimBlanks (s : String) : String :=
  let cs := (s.toList.dropWhile Chars.isWhiteSpace).reverse.dropWhile Chars.isWhiteSpace
  String.ofList cs.reverse

/-- The longest text, in bytes, read as a count. -/
def countTextLimit : Nat := 4300

/-- The integer a string spells: blanks around it, underscores anywhere but at its
ends, and zeros after a point allowed; a text longer than `countTextLimit` bytes
is refused for its size. -/
def integerOfString (s : String) : Except String Int :=
  let t := (trimBlanks s).toList
  if t.head? == some '_' || t.getLast? == some '_' then .error "int_parsing"
  else
    let t := String.ofList (t.filter (· ≠ '_'))
    if t.utf8ByteSize > countTextLimit then .error "int_parsing_size"
    else
      match integerText? t with
      | some n => .ok n
      | none =>
        match t.splitOn "." with
        | [whole, zeros] =>
          if !zeros.isEmpty && zeros.all (· == '0') then
            match integerText? whole with
            | some n => .ok n
            | none => .error "int_parsing"
          else .error "int_parsing"
        | _ => .error "int_parsing"

/-- A count. -/
def readCount : Value → Except String Int
  | .bool b => .ok (if b then 1 else 0)
  | .int n => .ok n
  | .float x =>
    if Decimal.isWhole x then
      match Decimal.truncate x with
      | some n =>
        -- a whole double counts only strictly between -2^63 and 2^63
        if n.natAbs ≥ Nat.pow 2 63 then .error "int_parsing_size" else .ok n
      | none => .error "finite_number"
    else if x.isFinite then .error "int_from_float" else .error "finite_number"
  | v =>
    match v.string? with
    | some s => integerOfString s
    | none => .error "int_type"

/-- A cap on errors: a count of at least 1. -/
def readCap (v : Value) : Except String Nat := do
  let n ← readCount v
  if n < 1 then throw "greater_than_equal"
  return n.toNat

/-- How a key is named in the place of a failure: a string as it is, an integer by its
digits (a boolean as 0 or 1), any other key as messages quote it. -/
def keyPlace : Value → String
  | .str s => s
  | .glyphs t => t.toLossyString
  | .bool b => if b then "1" else "0"
  | .int n => toString n
  | k => k.describe

/-- A key of a rule table: a string, or bytes that are UTF-8 text; the kind of the
failure of any other key. -/
def ruleKey : Value → Except String String
  | .str s => .ok s
  | .glyphs t => .ok t.toLossyString
  | .bytes data =>
    match String.fromUTF8? (ByteArray.mk data.toArray) with
    | some s => .ok s
    | none => .error "string_unicode"
  | _ => .error "string_type"

/-- A table of rule settings: a mapping whose keys are strings. -/
def readRules : Value → Except (List (String × String)) RuleTable
  | .obj fs => .ok fs
  | .dict entries =>
    let failures := entries.filterMap fun (k, _) =>
      match ruleKey k with
      | .ok _ => none
      | .error kind => some ("style_rules." ++ keyPlace k ++ ".[key]", kind)
    if failures.isEmpty then
      .ok (entries.filterMap fun (k, v) => match ruleKey k with
        | .ok name => some (name, v)
        | .error _ => none)
    else .error failures
  | _ => .error [("style_rules", "dict_type")]

/-- A list of strings for field `field`; `kind` names the failure of a value that is
no list. -/
def readStrings (field kind : String) : Value → Except (List (String × String)) (List String)
  | .list items =>
    let failures := items.zipIdx.filterMap fun (v, i) =>
      if v.string?.isSome then none else some (field ++ "." ++ toString i, "string_type")
    if failures.isEmpty then .ok (items.filterMap Value.string?) else .error failures
  | _ => .error [(field, kind)]

/-- Reads one field when it is given, keeping the default otherwise, and collects its
failures. -/
def field {α : Type} (fields : List (String × Value)) (name : String) (default : α)
    (read : Value → Except (List (String × String)) α) : α × List (String × String) :=
  match fields.lookup name with
  | none => (default, [])
  | some v =>
    match read v with
    | .ok a => (a, [])
    | .error es => (default, es)

/-- Names a failure by its field. -/
def named {α : Type} (name : String) (r : Except String α) : Except (List (String × String)) α :=
  match r with
  | .ok a => .ok a
  | .error kind => .error [(name, kind)]

/-- The options an object of data spells, or the refusal naming every field that fails. -/
def read (fields : List (String × Value)) : Except Refusal CheckOptions :=
  let (file, e1) := field fields "filename" none fun v => named "filename" (readFile v)
  let (format, e2) := field fields "module_format" .infer fun v =>
    named "module_format" (readFormat v)
  let (skipStyle, e3) := field fields "skip_style" false fun v =>
    named "skip_style" (readFlag v)
  let (styleRules, e4) := field fields "style_rules" [] readRules
  let (maxErrors, e5) := field fields "max_errors" 10 fun v => named "max_errors" (readCap v)
  let (names, e6) := field fields "allowed_identifiers" []
    (readStrings "allowed_identifiers" "frozen_set_type")
  let (members, e7) := field fields "allowed_members" []
    (readStrings "allowed_members" "tuple_type")
  let extras := (fields.filter fun (k, _) => !fieldNames.contains k).map fun (k, _) =>
    (k, "extra_forbidden")
  let failures := e1 ++ e2 ++ e3 ++ e4 ++ e5 ++ e6 ++ e7 ++ extras
  if failures.isEmpty then
    .ok { file, format, skipStyle, styleRules, maxErrors,
          allowedNames := (names.eraseDups).mergeSort fun a b => decide (a ≤ b),
          allowedMembers := members }
  else .error (.rejectedOptions failures)

/-- Options as data: the allowed names sorted, the allowed paths in order. -/
def toValue (o : CheckOptions) : Value :=
  .obj [("filename", Value.ofOption Value.str o.file), ("module_format", .str o.format.name),
    ("skip_style", .bool o.skipStyle), ("style_rules", .obj o.styleRules),
    ("max_errors", .int o.maxErrors),
    ("allowed_identifiers", .list (o.allowedNames.map Value.str)),
    ("allowed_members", .list (o.allowedMembers.map Value.str))]

end CheckOptions

end ScriptGate
