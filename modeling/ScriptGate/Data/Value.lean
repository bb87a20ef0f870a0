import ScriptGate.Text.Glyph
import ScriptGate.Decimal.Text
import ScriptGate.Text.Unicode
import ScriptGate.Data.Moment

/-!
# Data values

Settings, configuration files and answers are trees of *values*: null,
booleans, integers, doubles, strings, lists and objects.  An object keeps its
fields in the order they were written, so a lookup takes the first field of a
name and a rewrite keeps every field in place.

A string that may hold a lone surrogate (a line of a source text, say) is a
`glyphs` value; every other string is a `str`.

Configuration files bring a few more: dates and times, strings of bytes,
tuples, sets, mappings whose keys are not all strings (`dict`), and the mark
of a collection that holds itself (`cycle`), which stands where a recursive
document refers back to a list or mapping around it.

Keys of a mapping are compared as numbers compare across their kinds: `true`,
`1` and `1.0` are one key.  A key must be a scalar: null, a boolean, a
number, a string, bytes or a moment.

`Value.describe` writes a value the way messages quote it: strings between
single quotes (double quotes when the string holds a single quote and no
double quote), `True`, `False` and `None`, doubles by their shortest text,
lists in brackets and objects in braces.
-/

namespace ScriptGate

/-- A data value. -/
inductive Value where
  /-- The absent value. -/
  | null
  /-- A boolean. -/
  | bool (b : Bool)
  /-- An integer of any size. -/
  | int (n : Int)
  /-- A double. -/
  | float (x : Float)
  /-- A string of scalar values. -/
  | str (s : String)
  /-- A string that may hold lone surrogates. -/
  | glyphs (t : GlyphText)
  /-- A list. -/
  | list (items : List Value)
  /-- An object, its fields in order. -/
  | obj (fields : List (String × Value))
  /-- A date, a time of day, or both. -/
  | stamp (m : Moment)
  /-- A string of bytes. -/
  | bytes (data : List UInt8)
  /-- A sequence of fixed length. -/
  | tuple (items : List Value)
  /-- A collection of distinct keys. -/
  | set (items : List Value)
  /-- A mapping whose keys are not all strings, its entries in order. -/
  | dict (entries : List (Value × Value))
  /-- A collection met again inside itself: a mapping or a list. -/
  | cycle (mapping : Bool)
deriving Inhabited

namespace Value

instance : Coe String Value := ⟨str⟩

/-- Whether two strings are one, by their code points. -/
def sameText (a b : List Nat) : Bool := a == b

/-- A string value of glyphs: a `str` when every glyph is a scalar value. -/
def ofText (t : GlyphText) : Value :=
  if t.isScalar then .str t.toLossyString else .glyphs t

/-- The code points of a string value. -/
def codes? : Value → Option (List Nat)
  | str s => some (s.toList.map Char.toNat)
  | glyphs t => some (t.map Glyph.code)
  | _ => none

/-- The number a boolean, an integer or a double stands for, as an integer when it
is a whole one: `none` for a double with a fraction, an infinity or not-a-number. -/
def wholeNumber? : Value → Option Int
  | bool b => some (if b then 1 else 0)
  | int n => some n
  | float x => if x.floor == x then Decimal.truncate x else none
  | _ => none

/-- Whether two keys are one key.  Numbers are compared by value across booleans,
integers and doubles; strings by their code points; bytes, and moments as
`Moment.same` compares them.  Not-a-number is one key with itself, a document
having one such value. -/
def same (a b : Value) : Bool :=
  match a, b with
  | null, null => true
  | float x, float y => x == y || (x.isNaN && y.isNaN)
  | float x, v | v, float x =>
    match v with
    | bool _ | int _ => wholeNumber? (float x) == wholeNumber? v && (wholeNumber? v).isSome
    | _ => false
  | bool _, int _ | int _, bool _ | bool _, bool _ | int _, int _ =>
    wholeNumber? a == wholeNumber? b
  | bytes x, bytes y => x == y
  | stamp m, stamp n => m.same n
  | _, _ =>
    match codes? a, codes? b with
    | some x, some y => sameText x y
    | _, _ => false

/-- Whether a value can be a key of a mapping or a member of a set: a scalar, or a
tuple of such. -/
def isHashable : Value → Bool
  | list _ | obj _ | set _ | dict _ | cycle _ => false
  | tuple items => items.attach.all fun ⟨v, _⟩ => isHashable v
  | _ => true

/-- The entries of a mapping, object or dict. -/
def entries? : Value → Option (List (Value × Value))
  | obj fields => some (fields.map fun (k, v) => (str k, v))
  | dict entries => some entries
  | _ => none

/-- A mapping of entries: an object when every key is a string, else a dict. -/
def ofEntries (entries : List (Value × Value)) : Value :=
  let named := entries.filterMap fun (k, v) => match k with
    | str s => some (s, v)
    | _ => none
  if named.length = entries.length then obj named else dict entries

/-- The value of the entry keyed by the string `key`, if the value is a mapping that
has one. -/
def field? (v : Value) (key : String) : Option Value :=
  match v with
  | obj fields => fields.lookup key
  | dict entries => (entries.find? fun (k, _) => same k (str key)).map (·.2)
  | _ => none

/-- The string of a string value. -/
def string? : Value → Option String
  | str s => some s
  | glyphs t => some t.toLossyString
  | _ => none

/-- Whether a value counts as true: not null, false, zero, or empty.  A moment and a
collection met again are always true. -/
def truthy : Value → Bool
  | null => false
  | bool b => b
  | int n => n != 0
  | float x => x != 0
  | str s => !s.isEmpty
  | glyphs t => !t.isEmpty
  | list items => !items.isEmpty
  | obj fields => !fields.isEmpty
  | stamp _ => true
  | bytes data => !data.isEmpty
  | tuple items => !items.isEmpty
  | set items => !items.isEmpty
  | dict entries => !entries.isEmpty
  | cycle _ => true

/-- The members of a value taken as a collection: the items of a list, tuple or set,
the characters of a string, the keys of a mapping, the numbers of bytes.  Other
values are no collections, nor is a list or tuple that holds an item that cannot
be a member. -/
def members? : Value → Option (List Value)
  | list items => if items.all isHashable then some items else none
  | tuple items => if items.all isHashable then some items else none
  | set items => some items
  | str s => some (s.toList.map fun c => str (String.singleton c))
  | glyphs t => some (t.map fun g => glyphs [g])
  | obj fields => some (fields.map fun (k, _) => str k)
  | dict entries => some (entries.map (·.1))
  | bytes data => some (data.map fun b => int b.toNat)
  | _ => none

/-- An object from fields that may be absent. -/
def record (fields : List (String × Value)) : Value := obj fields

/-- `none` as null, `some v` as `f v`. -/
def ofOption {α : Type} (f : α → Value) : Option α → Value
  | none => null
  | some a => f a

/-! ## How messages quote a value -/

/-- Hexadecimal digits of `n`, padded to `width`. -/
def hexDigits (width n : Nat) : String :=
  let ds := Nat.toDigits 16 n
  String.ofList (List.replicate (width - ds.length) '0' ++ ds)

/-- Whether a code point is written as itself inside a quoted string. -/
def printable (n : Nat) : Bool := Unicode.isPrintable n

/-- One code point inside a string quoted with `quote`. -/
def quoteCode (quote : Char) (n : Nat) : String :=
  if n = 0x5C then "\\\\"
  else if n = quote.toNat then "\\" ++ String.singleton quote
  else if n = 0x0A then "\\n"
  else if n = 0x0D then "\\r"
  else if n = 0x09 then "\\t"
  else if printable n then String.singleton (Char.ofNat n)
  else if n < 0x100 then "\\x" ++ hexDigits 2 n
  else if n < 0x10000 then "\\u" ++ hexDigits 4 n
  else "\\U" ++ hexDigits 8 n

/-- A string between quotes: single ones unless it holds a single quote and no double one. -/
def quoteCodes (codes : List Nat) : String :=
  let quote := if codes.contains 0x27 ∧ ¬ codes.contains 0x22 then '"' else '\''
  String.singleton quote ++ String.join (codes.map (quoteCode quote)) ++ String.singleton quote

/-- A string quoted the way messages quote it. -/
def quoteString (s : String) : String := quoteCodes (s.toList.map Char.toNat)

/-- The name of a value's type, as a message names it. -/
def typeName : Value → String
  | null => "NoneType"
  | bool _ => "bool"
  | int _ => "int"
  | float _ => "float"
  | str _ | glyphs _ => "str"
  | list _ => "list"
  | obj _ | dict _ => "dict"
  | stamp m => m.typeName
  | bytes _ => "bytes"
  | tuple _ => "tuple"
  | set _ => "set"
  | cycle mapping => if mapping then "dict" else "list"

/-- One byte inside bytes quoted with `quote`. -/
def quoteByte (quote : Char) (b : UInt8) : String :=
  let n := b.toNat
  if n = 0x5C then "\\\\"
  else if n = quote.toNat then "\\" ++ String.singleton quote
  else if n = 0x0A then "\\n"
  else if n = 0x0D then "\\r"
  else if n = 0x09 then "\\t"
  else if 0x20 ≤ n ∧ n < 0x7F then String.singleton (Char.ofNat n)
  else "\\x" ++ hexDigits 2 n

/-- Bytes as messages quote them: `b` and the bytes between quotes, single ones
unless they hold a single quote and no double one. -/
def quoteBytes (data : List UInt8) : String :=
  let quote := if data.contains 0x27 ∧ ¬ data.contains 0x22 then '"' else '\''
  "b" ++ String.singleton quote ++ String.join (data.map (quoteByte quote)) ++
    String.singleton quote

mutual

/-- A value written the way messages quote it. -/
def describe : Value → String
  | null => "None"
  | bool b => if b then "True" else "False"
  | int n => toString n
  | float x => Decimal.floatText x
  | str s => quoteString s
  | glyphs t => quoteCodes (t.map Glyph.code)
  | list items => "[" ++ describeItems items ++ "]"
  | obj fields => "\x7b" ++ describeFields fields ++ "\x7d"
  | stamp m => m.describe
  | bytes data => quoteBytes data
  | tuple [v] => "(" ++ describe v ++ ",)"
  | tuple items => "(" ++ describeItems items ++ ")"
  | set [] => "set()"
  | set items => "\x7b" ++ describeItems items ++ "\x7d"
  | dict entries => "\x7b" ++ describeEntries entries ++ "\x7d"
  | cycle mapping => if mapping then "\x7b...\x7d" else "[...]"

/-- Values written one after another, separated by commas. -/
def describeItems : List Value → String
  | [] => ""
  | [v] => describe v
  | v :: rest => describe v ++ ", " ++ describeItems rest

/-- Fields written one after another, separated by commas. -/
def describeFields : List (String × Value) → String
  | [] => ""
  | [(k, v)] => quoteString k ++ ": " ++ describe v
  | (k, v) :: rest => quoteString k ++ ": " ++ describe v ++ ", " ++ describeFields rest

/-- Entries written one after another, separated by commas. -/
def describeEntries : List (Value × Value) → String
  | [] => ""
  | [(k, v)] => describe k ++ ": " ++ describe v
  | (k, v) :: rest => describe k ++ ": " ++ describe v ++ ", " ++ describeEntries rest

end

/-- A value written as text: a string as it is, a moment as its ISO text, any other
value as messages quote it. -/
def display : Value → String
  | str s => s
  | glyphs t => t.toLossyString
  | stamp m => m.text
  | v => v.describe

/-- The name a key takes when a mapping is written as an object: its text. -/
def keyName (k : Value) : String := k.display

/-- Whether one text, as code points, comes no later than another in the order of
code points, a prefix first. -/
def codesNoLater : List Nat → List Nat → Bool
  | [], _ => true
  | _ :: _, [] => false
  | a :: as, b :: bs => a < b || (a == b && codesNoLater as bs)

/-- The order of the members of a set when it is written as a list: numbers by
value, then strings by code point, then the rest as they stand. -/
def memberBefore (a b : Value) : Bool :=
  match wholeNumber? a, wholeNumber? b, a, b with
  | some m, some n, _, _ => m ≤ n
  | _, _, float x, float y => x ≤ y
  | some m, _, _, float y => Float.ofInt m ≤ y
  | _, some n, float x, _ => x ≤ Float.ofInt n
  | _, _, _, _ =>
    match codes? a, codes? b with
    | some x, some y => codesNoLater x y
    | some _, none => false
    | _, _ => true

mutual

/-- The plain form of a value, as data formats write it: a moment or bytes as its
text, a tuple as a list, a set as a list in ascending order, a dict as an object
named by the texts of its keys, and a collection met again as null. -/
def plain : Value → Value
  | list items => list (plainItems items)
  | obj fields => obj (plainFields fields)
  | stamp m => str m.text
  | bytes data => str (quoteBytes data)
  | tuple items => list (plainItems items)
  | set items => list ((plainItems items).mergeSort memberBefore)
  | dict entries => obj (plainEntries entries)
  | cycle _ => null
  | v => v

/-- Items in their plain forms. -/
def plainItems : List Value → List Value
  | [] => []
  | v :: rest => plain v :: plainItems rest

/-- Fields with their values in plain form. -/
def plainFields : List (String × Value) → List (String × Value)
  | [] => []
  | (k, v) :: rest => (k, plain v) :: plainFields rest

/-- Entries as fields named by the texts of their keys, values in plain form. -/
def plainEntries : List (Value × Value) → List (String × Value)
  | [] => []
  | (k, v) :: rest => (keyName k, plain v) :: plainEntries rest

end

end Value

end ScriptGate
