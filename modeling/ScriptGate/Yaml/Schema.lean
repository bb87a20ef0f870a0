import ScriptGate.Yaml.Token
import ScriptGate.Text.NumberText
import ScriptGate.Text.Case

/-!
# The YAML 1.1 schema: what a scalar means

A scalar written without quotes and without a tag gets its tag from its text,
by patterns tried in this order on the whole text (a final line feed may stand
after it):

* `bool`: `yes`, `no`, `true`, `false`, `on`, `off`, each in lower case, with a
  capital first letter, or in capitals;
* `float`: digits with a point and an exponent with a sign when there is one
  (`1.5`, `1.`, `1.0e+3`), a point and digits (`.5`), base-60 places with a
  point (`1:30.5`), `.inf` with a sign or none, `.nan`;
* `int`: `0b` binary, `0` octal, `0` or digits not led by a zero, `0x`
  hexadecimal, base-60 places (`1:30`); each with a sign or none;
* `merge`: `<<`;
* `null`: empty, `~`, `null`, `Null`, `NULL`;
* `timestamp`: a date `YYYY-MM-DD`, or a date with one- or two-digit month and
  day, then `T` or blanks, a time, a fraction and a zone when there are;
* `value`: `=`.

Underscores may stand among the digits of numbers.  A pattern is tried only
when the text starts with a character it can start with, so `1e3` (no point)
and `._5` (no digit after the point) are strings.  Every other scalar is a
string.

The values of the tags follow:

* an integer drops its underscores, reads a sign, then `0b` binary, `0x`
  hexadecimal, a leading `0` octal, places of base 60, or decimal;
* a double drops its underscores and reads in lower case: `.inf`, `.nan`, places
  of base 60 summed from the last as doubles, or a decimal;
* a boolean is one of the six words in any case;
* a timestamp is a date, or a date and time with the zone as an offset;
* binary data is base64 text, its other characters passed over.

A text the value of a tag cannot be read from fails as the reading of a
number, a table lookup or a date fails.
-/

namespace ScriptGate.Yaml

namespace Schema

/-- The tag of strings. -/
def strTag : String := "tag:yaml.org,2002:str"
/-- The tag of sequences. -/
def seqTag : String := "tag:yaml.org,2002:seq"
/-- The tag of mappings. -/
def mapTag : String := "tag:yaml.org,2002:map"
/-- The tag of null. -/
def nullTag : String := "tag:yaml.org,2002:null"
/-- The tag of booleans. -/
def boolTag : String := "tag:yaml.org,2002:bool"
/-- The tag of integers. -/
def intTag : String := "tag:yaml.org,2002:int"
/-- The tag of doubles. -/
def floatTag : String := "tag:yaml.org,2002:float"
/-- The tag of dates and times. -/
def timestampTag : String := "tag:yaml.org,2002:timestamp"
/-- The tag of the key that merges mappings into a mapping. -/
def mergeTag : String := "tag:yaml.org,2002:merge"
/-- The tag of the key that gives a mapping's value as a scalar. -/
def valueTag : String := "tag:yaml.org,2002:value"
/-- The tag of the indicators `!`, `&` and `*`. -/
def yamlTag : String := "tag:yaml.org,2002:yaml"
/-- The tag of base64 binary data. -/
def binaryTag : String := "tag:yaml.org,2002:binary"
/-- The tag of sets. -/
def setTag : String := "tag:yaml.org,2002:set"
/-- The tag of ordered mappings. -/
def omapTag : String := "tag:yaml.org,2002:omap"
/-- The tag of lists of pairs. -/
def pairsTag : String := "tag:yaml.org,2002:pairs"

/-! ## Patterns -/

/-- Whether a text passes a pattern, a final line feed allowed after it. -/
def whole (p : List Char → Bool) (cs : List Char) : Bool :=
  p cs || (cs.getLast? == some '\n' && p cs.dropLast)

/-- An optional sign and the rest. -/
def unsigned : List Char → List Char
  | '-' :: rest | '+' :: rest => rest
  | cs => cs

/-- Whether a character is an ASCII digit or an underscore. -/
def isDigitMark (c : Char) : Bool := c.isDigit || c = '_'

/-- The text after a run of characters that pass `p`. -/
def skip (p : Char → Bool) (cs : List Char) : List Char := cs.dropWhile p

/-- Whether a text is an optional exponent: `e` or `E`, a sign, and digits. -/
def isExponent : List Char → Bool
  | [] => true
  | e :: s :: ds => (e = 'e' || e = 'E') && (s = '-' || s = '+') && !ds.isEmpty && ds.all Char.isDigit
  | _ => false

/-- The text after base-60 places, each a colon and one digit or two digits the
first of them up to 5, when there is at least one. -/
def afterPlaces : List Char → Option (List Char)
  | ':' :: a :: b :: rest =>
    if a.isDigit && b.isDigit && a ≤ '5' then some ((afterPlaces rest).getD rest)
    else if a.isDigit then some ((afterPlaces (b :: rest)).getD (b :: rest))
    else none
  | [':', a] => if a.isDigit then some [] else none
  | _ => none

/-- Whether a text is a boolean word. -/
def isBoolText (cs : List Char) : Bool :=
  ["yes", "Yes", "YES", "no", "No", "NO", "true", "True", "TRUE", "false", "False", "FALSE",
   "on", "On", "ON", "off", "Off", "OFF"].contains (String.ofList cs)

/-- Whether a text is a double. -/
def isFloatText (cs : List Char) : Bool :=
  let body := unsigned cs
  let decimal := match body with
    | c :: rest =>
      c.isDigit && (match skip isDigitMark rest with
        | '.' :: frac => isExponent (skip isDigitMark frac)
        | _ => false)
    | [] => false
  let pointFirst := match cs with
    | '.' :: c :: rest => c.isDigit && isExponent (skip isDigitMark rest)
    | _ => false
  let sexagesimal := match body with
    | c :: rest =>
      c.isDigit && (match afterPlaces (skip isDigitMark rest) with
        | some ('.' :: frac) => (skip isDigitMark frac).isEmpty
        | _ => false)
    | [] => false
  let infinity := [".inf", ".Inf", ".INF"].contains (String.ofList body)
  let notNumber := [".nan", ".NaN", ".NAN"].contains (String.ofList cs)
  decimal || pointFirst || sexagesimal || infinity || notNumber

/-- Whether a text is an integer. -/
def isIntText (cs : List Char) : Bool :=
  match unsigned cs with
  | '0' :: 'b' :: rest => !rest.isEmpty && rest.all fun c => c = '0' || c = '1' || c = '_'
  | '0' :: 'x' :: rest =>
    !rest.isEmpty && rest.all fun c => c.isDigit || ('a' ≤ c && c ≤ 'f') || ('A' ≤ c && c ≤ 'F') || c = '_'
  | ['0'] => true
  | '0' :: rest => rest.all fun c => ('0' ≤ c && c ≤ '7') || c = '_'
  | c :: rest =>
    '1' ≤ c && c ≤ '9' &&
      (rest.all isDigitMark || (afterPlaces (skip isDigitMark rest)) == some [])
  | [] => false

/-- Whether a text is null. -/
def isNullText (cs : List Char) : Bool :=
  ["", "~", "null", "Null", "NULL"].contains (String.ofList cs)

/-- Exactly `n` ASCII digits, and the text after them. -/
def digitsN (n : Nat) (cs : List Char) : Option (List Char × List Char) :=
  if (cs.take n).length = n && (cs.take n).all Char.isDigit then some (cs.take n, cs.drop n)
  else none

/-- One or two ASCII digits, as many as there are, and the text after them. -/
def digitsUpTo2 (cs : List Char) : Option (List Char × List Char) :=
  match cs with
  | a :: b :: rest => if a.isDigit then (if b.isDigit then some ([a, b], rest) else some ([a], b :: rest)) else none
  | [a] => if a.isDigit then some ([a], []) else none
  | [] => none

/-- A character. -/
def char (c : Char) : List Char → Option (List Char)
  | d :: rest => if c = d then some rest else none
  | [] => none

/-- The parts of a timestamp: year, month, day, and when a time follows, the hour,
minute, second, fraction digits, and the zone (`none` for none, `some none` for
`Z`, else the sign, hours and minutes). -/
structure StampText where
  /-- The digits of the year. -/
  year : List Char
  /-- The digits of the month. -/
  month : List Char
  /-- The digits of the day. -/
  day : List Char
  /-- The time, when one follows the date. -/
  clock : Option (List Char × List Char × List Char × List Char ×
    Option (Option (Bool × List Char × Option (List Char))))

/-- The zone of a timestamp after its time and blanks: `Z`, or a sign, one or two
digits, and a colon and two digits when they follow. -/
def zoneText (cs : List Char) : Option (Option (Bool × List Char × Option (List Char)) × List Char) :=
  match cs with
  | 'Z' :: rest => some (none, rest)
  | s :: rest =>
    if s = '+' || s = '-' then do
      let (h, rest) ← digitsUpTo2 rest
      match rest with
      | ':' :: more =>
        match digitsN 2 more with
        | some (m, after) => some (some (s = '-', h, some m), after)
        | none => some (some (s = '-', h, none), rest)
      | _ => some (some (s = '-', h, none), rest)
    else none
  | [] => none

/-- The time of a timestamp: hour, minute, second, fraction, and the zone. -/
def clockText (cs : List Char) : Option (List Char × List Char × List Char × List Char ×
    Option (Option (Bool × List Char × Option (List Char)))) := do
  let (h, rest) ← digitsUpTo2 cs
  let rest ← char ':' rest
  let (mi, rest) ← digitsN 2 rest
  let rest ← char ':' rest
  let (s, rest) ← digitsN 2 rest
  let (frac, rest) := match rest with
    | '.' :: more => (more.takeWhile Char.isDigit, more.dropWhile Char.isDigit)
    | _ => ([], rest)
  let blanks := rest.takeWhile fun c => c = ' ' || c = '\t'
  let afterBlanks := rest.drop blanks.length
  match zoneText afterBlanks with
  | some (z, after) => if after.isEmpty then some (h, mi, s, frac, some z) else none
  | none => if rest.isEmpty then some (h, mi, s, frac, none) else none

/-- A timestamp as the value of the tag reads it: a year of four digits, a month and a
day of one or two, then, after `T`, `t` or blanks, a time. -/
def stampText? (cs : List Char) : Option StampText := do
  let (y, rest) ← digitsN 4 cs
  let rest ← char '-' rest
  let (mo, rest) ← digitsUpTo2 rest
  let rest ← char '-' rest
  let (d, rest) ← digitsUpTo2 rest
  match rest with
  | [] => some ⟨y, mo, d, none⟩
  | t :: more =>
    let afterSep := if t = 'T' || t = 't' then some more
      else if t = ' ' || t = '\t' then some (more.dropWhile fun c => c = ' ' || c = '\t')
      else none
    let after ← afterSep
    let clock ← clockText after
    some ⟨y, mo, d, some clock⟩

/-- Whether a text is a timestamp to the pattern of plain scalars: the date alone has
two-digit month and day. -/
def isTimestampText (cs : List Char) : Bool :=
  match stampText? cs with
  | some st =>
    match st.clock with
    | none => st.month.length = 2 && st.day.length = 2
    | some _ => true
  | none => false

/-- The tag a plain scalar gets from its text; the patterns tried are those whose
texts can start with its first character. -/
def implicitTag (cs : List Char) : String :=
  let c := cs.head?
  let has (set : String) : Bool := match c with
    | some c => set.toList.contains c
    | none => false
  let tries : List (String × (List Char → Bool)) :=
    (if c.isNone then [(nullTag, isNullText)] else []) ++
    (if has "yYnNtTfFoO" then [(boolTag, isBoolText)] else []) ++
    (if has "-+0123456789." then [(floatTag, isFloatText)] else []) ++
    (if has "-+0123456789" then [(intTag, isIntText)] else []) ++
    (if has "<" then [(mergeTag, fun cs => cs == ['<', '<'])] else []) ++
    (if has "~nN" then [(nullTag, isNullText)] else []) ++
    (if has "0123456789" then [(timestampTag, isTimestampText)] else []) ++
    (if has "=" then [(valueTag, fun cs => cs == ['='])] else []) ++
    (if has "!&*" then [(yamlTag, fun cs => cs == ['!'] || cs == ['&'] || cs == ['*'])] else [])
  match tries.find? fun (_, p) => whole p cs with
  | some (tag, _) => tag
  | none => strTag

/-! ## Values of scalars -/

/-- The first character and a sign read off a number's text: the sign, and the text
after it; an empty text has no first character. -/
def signOf (cs : List Char) : Result (Bool × List Char) :=
  match cs with
  | '-' :: rest => pure (true, rest)
  | '+' :: rest => pure (false, rest)
  | [] => throw .outOfRange
  | _ => pure (false, cs)

/-- An integer read in a base, or a bad value. -/
def readInteger (base : Nat) (cs : List Char) : Result Int :=
  match NumberText.integer? base (String.ofList cs) with
  | some n => pure n
  | none => throw (.badValue none)

/-- The value of base-60 places, the last counting one. -/
def placesValue (parts : List Int) : Int := parts.foldl (fun acc p => acc * 60 + p) 0

/-- The integer of a scalar tagged `int`. -/
def intValue (text : List Char) : Result Int := do
  let (negative, body) ← signOf (text.filter (· ≠ '_'))
  let sign : Int := if negative then -1 else 1
  match body with
  | ['0'] => pure 0
  | '0' :: 'b' :: ds => return sign * (← readInteger 2 ds)
  | '0' :: 'x' :: ds => return sign * (← readInteger 16 ds)
  | '0' :: _ => return sign * (← readInteger 8 body)
  | [] => throw .outOfRange
  | _ =>
    if body.contains ':' then
      let parts ← ((String.ofList body).splitOn ":").mapM fun p => readInteger 10 p.toList
      return sign * placesValue parts
    else return sign * (← readInteger 10 body)

/-- A double read from text, or a bad value. -/
def readDouble (cs : List Char) : Result Float :=
  match NumberText.double? (String.ofList cs) with
  | some x => pure x
  | none => throw (.badValue none)

/-- The sum of base-60 places given as doubles, from the last: each place is
multiplied by its power of sixty and added in turn. -/
def placesDouble (parts : List Float) : Float :=
  (parts.reverse.foldl (fun (acc : Float × Nat) d => (acc.1 + d * Float.ofNat acc.2, acc.2 * 60))
    (0.0, 1)).1

/-- The double of a scalar tagged `float`. -/
def floatValue (text : List Char) : Result Float := do
  let lower := (Case.lower (String.ofList (text.filter (· ≠ '_')))).toList
  let (negative, body) ← signOf lower
  let signed (x : Float) : Float := if negative then -x else x
  if body = ".inf".toList then return signed (1.0 / 0.0)
  else if body = ".nan".toList then return 0.0 / 0.0
  else if body.contains ':' then
    let parts ← ((String.ofList body).splitOn ":").mapM fun p => readDouble p.toList
    return signed (placesDouble parts)
  else return signed (← readDouble body)

/-- The boolean of a scalar tagged `bool`; a word that is none is a missing key. -/
def boolValue (text : List Char) : Result Bool :=
  match Case.lower (String.ofList text) with
  | "yes" | "true" | "on" => pure true
  | "no" | "false" | "off" => pure false
  | _ => throw .missingKey

/-- The value of ASCII digits. -/
def digitsOf (cs : List Char) : Nat := cs.foldl (fun acc c => acc * 10 + (c.toNat - 48)) 0

/-- The moment of a scalar tagged `timestamp`: a text that does not match is a missing
attribute, a date or time out of range a bad value. -/
def timestampValue (text : List Char) : Result Moment := do
  let st ← match whole (fun cs => (stampText? cs).isSome) text with
    | true =>
      match stampText? text with
      | some st => pure st
      | none => match stampText? text.dropLast with
        | some st => pure st
        | none => throw .missingAttribute
    | false => throw .missingAttribute
  let date : Date := ⟨digitsOf st.year, digitsOf st.month, digitsOf st.day⟩
  match st.clock with
  | none =>
    if date.valid then return .date date else throw (.badValue none)
  | some (h, mi, s, frac, zone) =>
    let micro := digitsOf ((frac.take 6) ++ List.replicate (6 - (frac.take 6).length) '0')
    let clock : Clock := ⟨digitsOf h, digitsOf mi, digitsOf s, micro⟩
    if !date.valid || !clock.valid then throw (.badValue none)
    let offset : Option Int ← match zone with
      | none => pure none
      | some none => pure (some 0)
      | some (some (negative, hours, minutes)) =>
        let total : Int := (digitsOf hours * 60 + digitsOf (minutes.getD [])  : Nat)
        let total := if negative then -total else total
        if Moment.offsetValid total then pure (some total) else throw (.badValue none)
    return .dateTime date clock offset

/-- The value of a base64 letter. -/
def base64Digit (c : Char) : Option Nat :=
  if 'A' ≤ c && c ≤ 'Z' then some (c.toNat - 65)
  else if 'a' ≤ c && c ≤ 'z' then some (c.toNat - 71)
  else if '0' ≤ c && c ≤ '9' then some (c.toNat + 4)
  else if c = '+' then some 62
  else if c = '/' then some 63
  else none

/-- The bytes of base64 text.  Characters that are no base64 letters are passed
over; `=` after two or three letters of a group of four ends the data.  A group
left short without its `=` is a fault. -/
def base64Bytes (cs : List Char) : Option (List UInt8) :=
  let rec go (quad : Nat) (left : Nat) (pads : Nat) (out : List UInt8) :
      List Char → Option (List UInt8)
    | [] => if quad = 0 then some out.reverse else none
    | c :: rest =>
      if c = '=' then
        if quad ≥ 2 && quad + pads + 1 ≥ 4 then some out.reverse
        else go quad left (if quad ≥ 2 then pads + 1 else pads) out rest
      else match base64Digit c with
        | none => go quad left pads out rest
        | some v =>
          match quad with
          | 0 => go 1 v 0 out rest
          | 1 => go 2 (v % 16) 0 ((left * 4 + v / 16).toUInt8 :: out) rest
          | 2 => go 3 (v % 4) 0 ((left * 16 + v / 4).toUInt8 :: out) rest
          | _ => go 0 0 0 ((left * 64 + v).toUInt8 :: out) rest
  go 0 0 0 [] cs

/-- The bytes of a scalar tagged `binary`: its text must be ASCII and base64. -/
def binaryValue (text : List Char) : Result (List UInt8) :=
  if !text.all (·.toNat < 128) then throw (.malformedYaml .constructing)
  else match base64Bytes text with
    | some bytes => pure bytes
    | none => throw (.malformedYaml .constructing)

end Schema

end ScriptGate.Yaml
