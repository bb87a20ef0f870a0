import ScriptGate.Data.Value

/-!
# JSON text of values

A value is written as JSON laid out over lines: each item of a list and each
field of an object on a line of its own, indented two spaces per level, a
field's name followed by `": "`.  Empty lists and objects stay `[]` and `{}`.

Strings keep every character that JSON allows as it is; quotes, backslashes
and the control characters are escaped (`\n`, `\r`, `\t`, `\b`, `\f`, and
`\u00XX` for the rest), and so is a lone surrogate (`\udXXX`).  Doubles are
written by their shortest text, and the values JSON has no number for as
`NaN`, `Infinity` and `-Infinity`.
-/

namespace ScriptGate

namespace Json

/-- Four lower-case hexadecimal digits. -/
def hex4 (n : Nat) : String := "\\u" ++ Value.hexDigits 4 n

/-- One code point of a string, escaped as JSON needs it. -/
def escapeCode (n : Nat) : String :=
  if n = 0x22 then "\\\"" else if n = 0x5C then "\\\\"
  else if n = 0x0A then "\\n" else if n = 0x0D then "\\r" else if n = 0x09 then "\\t"
  else if n = 0x08 then "\\b" else if n = 0x0C then "\\f"
  else if n < 0x20 || (0xD800 ≤ n && n ≤ 0xDFFF) then hex4 n
  else String.singleton (Char.ofNat n)

/-- A string of code points as a JSON string. -/
def quoteCodes (codes : List Nat) : String :=
  "\"" ++ String.join (codes.map escapeCode) ++ "\""

/-- A double as JSON writes it. -/
def floatText (x : Float) : String :=
  if x.isNaN then "NaN"
  else if x.isInf then (if x > 0 then "Infinity" else "-Infinity")
  else Decimal.floatText x

/-- Spaces for a level of indentation. -/
def pad (level : Nat) : String := String.ofList (List.replicate (2 * level) ' ')

mutual

/-- A value as JSON text at a level of indentation. -/
def write (level : Nat) : Value → String
  | .null => "null"
  | .bool b => if b then "true" else "false"
  | .int n => toString n
  | .float x => floatText x
  | .str s => quoteCodes (s.toList.map Char.toNat)
  | .glyphs t => quoteCodes (t.map Glyph.code)
  | .list [] => "[]"
  | .list items => "[\n" ++ writeItems (level + 1) items ++ "\n" ++ pad level ++ "]"
  | .obj [] => "\x7b\x7d"
  | .obj fields => "\x7b\n" ++ writeFields (level + 1) fields ++ "\n" ++ pad level ++ "\x7d"
  | _ => "null"

/-- Items, one a line. -/
def writeItems (level : Nat) : List Value → String
  | [] => ""
  | [v] => pad level ++ write level v
  | v :: rest => pad level ++ write level v ++ ",\n" ++ writeItems level rest

/-- Fields, one a line. -/
def writeFields (level : Nat) : List (String × Value) → String
  | [] => ""
  | [(k, v)] => pad level ++ quoteCodes (k.toList.map Char.toNat) ++ ": " ++ write level v
  | (k, v) :: rest =>
    pad level ++ quoteCodes (k.toList.map Char.toNat) ++ ": " ++ write level v ++ ",\n" ++
      writeFields level rest

end

end Json

/-- A value as JSON text laid out over lines, in its plain form. -/
def Value.toJson (v : Value) : String := Json.write 0 v.plain

end ScriptGate
