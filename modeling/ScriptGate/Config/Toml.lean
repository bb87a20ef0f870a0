import ScriptGate.Data.Value
import ScriptGate.Syntax.Numeral

/-!
# Reading TOML

A TOML document is read into an object of values: tables become objects,
arrays lists, strings, integers, doubles and booleans stay what they are, and
a date or time is a moment, its fraction of a second cut to microseconds.  A
date that is not a day of the calendar, and any other break of a rule of TOML
1.0, makes the document not read at all.

The document is read statement by statement.  A statement is a key and a
value, a table header `[a.b]` or an array-of-tables header `[[a.b]]`; each
stands on its own line, with blanks and a comment after it allowed.  A pair
goes into the table of the last header.

Which tables may still be written is kept as *marks* on keys.

* A table that a header names is *declared*.  A second header of it is an
  error, and so is a dotted key that reaches into it from another table.  The
  tables a dotted key opens become declared at the next header.
* An inline table or an array is *frozen*, with everything below it: nothing
  may be added to it later.

An array-of-tables header clears the marks below its key, since it starts a
fresh table at the end of the array, and declares the key itself.  Keys are
walked through the last table of such an array.
-/

namespace ScriptGate.Toml

/-- The fields of a table, in the order they were written. -/
abbrev Table := List (String × Value)

/-- A key: the names of its parts, outermost first. -/
abbrev Key := List String

/-- What a mark on a key says. -/
inductive Mark where
  /-- A header declared the table. -/
  | declared
  /-- The value was written whole and may not grow. -/
  | frozen
deriving DecidableEq

/-- A mark on a key; a deep mark holds for every key below it as well. -/
structure Marked where
  /-- The key. -/
  key : Key
  /-- The mark. -/
  mark : Mark
  /-- Whether the mark holds below the key too. -/
  deep : Bool

/-- Whether a mark holds for a key: it is set on the key, or deep on a key above it. -/
def Marked.covers (m : Marked) (key : Key) (mark : Mark) : Bool :=
  m.mark == mark && (m.key == key || (m.deep && m.key.length < key.length && m.key.isPrefixOf key))

/-- The marks of a document. -/
abbrev Marks := List Marked

/-- Whether a key has a mark; the empty key, the root, has none. -/
def Marks.has (ms : Marks) (key : Key) (mark : Mark) : Bool :=
  !key.isEmpty && ms.any (·.covers key mark)

/-- The marks without those on a key or below it. -/
def Marks.clear (ms : Marks) (key : Key) : Marks := ms.filter fun m => !key.isPrefixOf m.key

/-- A table with the value of a field replaced, in its place. -/
def Table.set (t : Table) (name : String) (v : Value) : Table :=
  t.map fun (k, w) => if k == name then (k, v) else (k, w)

/-- Changes the table at a key, opening empty tables on the way; through an array it
goes into the last table when `lists` allows it.  A value on the way that is no
table is an error. -/
def Table.update (lists : Bool) (f : Table → Option Table) : Key → Table → Option Table
  | [], t => f t
  | k :: rest, t =>
    match t.lookup k with
    | none => do
      let inner ← Table.update lists f rest []
      some (t ++ [(k, .obj inner)])
    | some (.obj inner) => do
      let inner ← Table.update lists f rest inner
      some (t.set k (.obj inner))
    | some (.list items) =>
      if lists then
        match items.getLast? with
        | some (.obj inner) => do
          let inner ← Table.update lists f rest inner
          some (t.set k (.list (items.dropLast ++ [.obj inner])))
        | _ => none
      else none
    | some _ => none

/-- A table with a new field; a name already there is an error. -/
def Table.add (name : String) (v : Value) (t : Table) : Option Table :=
  if (t.lookup name).isSome then none else some (t ++ [(name, v)])

/-- Whether a value is written whole, so that it freezes. -/
def isWhole : Value → Bool
  | .obj _ | .list _ => true
  | _ => false

/-! ## Characters -/

/-- Control characters: below a space, and delete. -/
def isControl (c : Char) : Bool := c.toNat < 32 || c.toNat = 127

/-- Characters of a bare key. -/
def isBareChar (c : Char) : Bool :=
  ('a' ≤ c && c ≤ 'z') || ('A' ≤ c && c ≤ 'Z') || c.isDigit || c = '-' || c = '_'

/-- Blanks within a line. -/
def isBlank (c : Char) : Bool := c = ' ' || c = '\t'

/-- The text without the blanks at its start. -/
def skipBlanks (cs : List Char) : List Char := cs.dropWhile isBlank

/-- The text after a comment, if one starts here and holds no control character but
tabs; the newline after it stays. -/
def skipComment : List Char → Option (List Char)
  | '#' :: rest =>
    let body := rest.takeWhile (· ≠ '\n')
    if body.any fun c => isControl c && c ≠ '\t' then none
    else some (rest.drop body.length)
  | cs => some cs

/-- The text after blanks, newlines and comments, as they may stand inside an array;
`inComment` says a comment is open. -/
def skipSpace (inComment : Bool) : List Char → Option (List Char)
  | [] => some []
  | c :: rest =>
    if inComment then
      if c = '\n' then skipSpace false rest
      else if isControl c && c ≠ '\t' then none
      else skipSpace true rest
    else if isBlank c || c = '\n' then skipSpace false rest
    else if c = '#' then skipSpace true rest
    else some (c :: rest)

/-! ## Strings -/

/-- The value of hexadecimal digits. -/
def hexValue? (cs : List Char) : Option Nat :=
  cs.foldlM (fun acc c =>
    if c.isDigit then some (acc * 16 + (c.toNat - 48))
    else if 'a' ≤ c && c ≤ 'f' then some (acc * 16 + (c.toNat - 87))
    else if 'A' ≤ c && c ≤ 'F' then some (acc * 16 + (c.toNat - 55))
    else none) 0

/-- The character of `width` hex digits, which must name a scalar value. -/
def hexChar (width : Nat) (cs : List Char) : Option (Char × List Char) := do
  let digits := cs.take width
  if digits.length ≠ width then none
  let n ← hexValue? digits
  if n < 0xD800 || (0xDFFF < n && n < 0x110000) then some (Char.ofNat n, cs.drop width)
  else none

/-- The text of an escape after its backslash, and the rest.  In a multi-line
string a backslash at the end of a line, blanks after it allowed, takes away the
line end and all blanks and line ends after it. -/
def escape (multiline : Bool) : List Char → Option (List Char × List Char)
  | 'b' :: rest => some (['\x08'], rest)
  | 't' :: rest => some (['\t'], rest)
  | 'n' :: rest => some (['\n'], rest)
  | 'f' :: rest => some (['\x0c'], rest)
  | 'r' :: rest => some (['\r'], rest)
  | '"' :: rest => some (['"'], rest)
  | '\\' :: rest => some (['\\'], rest)
  | 'u' :: rest => (hexChar 4 rest).map fun (c, r) => ([c], r)
  | 'U' :: rest => (hexChar 8 rest).map fun (c, r) => ([c], r)
  | c :: rest =>
    if multiline && (isBlank c || c = '\n') then
      let afterBlanks := skipBlanks (c :: rest)
      match afterBlanks with
      | [] => some ([], [])
      | d :: more =>
        if d = '\n' || c = '\n' then
          some ([], (d :: more).dropWhile fun e => isBlank e || e = '\n')
        else none
    else none
  | [] => none

/-- A basic string's characters up to its closing quote or quotes, and the text after
them; `fuel` bounds the characters read. -/
def basicBody (multiline : Bool) : Nat → List Char → List Char → Option (List Char × List Char)
  | 0, _, _ => none
  | _ + 1, _, [] => none
  | fuel + 1, acc, c :: rest =>
    if c = '"' then
      if !multiline then some (acc.reverse, rest)
      else match rest with
        | '"' :: '"' :: after => some (acc.reverse, after)
        | _ => basicBody multiline fuel (c :: acc) rest
    else if c = '\\' then do
      let (text, after) ← escape multiline rest
      basicBody multiline fuel (text.reverse ++ acc) after
    else if isControl c && c ≠ '\t' && !(multiline && c = '\n') then none
    else basicBody multiline fuel (c :: acc) rest

/-- A literal string's characters up to its closing quote or quotes, and the text after
them. -/
def literalBody (multiline : Bool) : List Char → List Char → Option (List Char × List Char)
  | _, [] => none
  | acc, c :: rest =>
    if c = '\'' then
      if !multiline then some (acc.reverse, rest)
      else match rest with
        | '\'' :: '\'' :: after => some (acc.reverse, after)
        | _ => literalBody multiline (c :: acc) rest
    else if isControl c && c ≠ '\t' && !(multiline && c = '\n') then none
    else literalBody multiline (c :: acc) rest

/-- A multi-line string may end with one or two of its quotes before the closing
three: they belong to it. -/
def closingQuotes (quote : Char) (body rest : List Char) : List Char × List Char :=
  match rest with
  | q :: r =>
    if q = quote then
      match r with
      | q' :: r' => if q' = quote then (body ++ [quote, quote], r') else (body ++ [quote], r)
      | [] => (body ++ [quote], r)
    else (body, rest)
  | [] => (body, rest)

/-- A string after its opening quotes, and the text after it. -/
def string (quote : Char) (multiline : Bool) (cs : List Char) : Option (String × List Char) := do
  let cs := if multiline then (match cs with | '\n' :: r => r | _ => cs) else cs
  let (body, rest) ← if quote = '"' then basicBody multiline (cs.length + 1) [] cs
    else literalBody multiline [] cs
  let (body, rest) := if multiline then closingQuotes quote body rest else (body, rest)
  some (String.ofList body, rest)

/-! ## Keys -/

/-- One part of a key: bare, or a one-line string. -/
def keyPart : List Char → Option (String × List Char)
  | '"' :: rest => string '"' false rest
  | '\'' :: rest => string '\'' false rest
  | cs =>
    let bare := cs.takeWhile isBareChar
    if bare.isEmpty then none else some (String.ofList bare, cs.drop bare.length)

/-- The further parts of a dotted key, each after a dot; blanks around dots allowed. -/
def keyRest : Nat → List String → List Char → Option (Key × List Char)
  | 0, _, _ => none
  | fuel + 1, acc, cs =>
    match skipBlanks cs with
    | '.' :: rest => do
      let (part, after) ← keyPart (skipBlanks rest)
      keyRest fuel (part :: acc) after
    | other => some (acc.reverse, other)

/-- A key, and the text after it and the blanks after it. -/
def key (cs : List Char) : Option (Key × List Char) := do
  let (part, rest) ← keyPart cs
  keyRest (cs.length + 1) [part] rest

/-! ## Numbers, dates and times -/

/-- Digits of a class with single underscores between them: the digits, and the text
after them. -/
def digitsRun (ok : Char → Bool) : List Char → Option (List Char × List Char)
  | c :: rest => if ok c then some (go [c] rest) else none
  | [] => none
where
  /-- The run after its first digit. -/
  go (acc : List Char) : List Char → List Char × List Char
    | '_' :: d :: more => if ok d then go (d :: acc) more else (acc.reverse, '_' :: d :: more)
    | d :: more => if ok d then go (d :: acc) more else (acc.reverse, d :: more)
    | [] => (acc.reverse, [])

/-- The value of digits in a base. -/
def digitsValue (base : Nat) (ds : List Char) : Nat :=
  ds.foldl (fun acc c => acc * base + (hexValue? [c]).getD 0) 0

/-- An integer with a base prefix: hexadecimal, binary or octal. -/
def prefixed : List Char → Option (Value × List Char)
  | '0' :: 'x' :: rest => (digitsRun (fun c => (hexValue? [c]).isSome) rest).map
      fun (ds, r) => (.int (digitsValue 16 ds), r)
  | '0' :: 'b' :: rest => (digitsRun (fun c => c = '0' || c = '1') rest).map
      fun (ds, r) => (.int (digitsValue 2 ds), r)
  | '0' :: 'o' :: rest => (digitsRun (fun c => '0' ≤ c && c ≤ '7') rest).map
      fun (ds, r) => (.int (digitsValue 8 ds), r)
  | _ => none

/-- The fraction of a decimal number: a point and digits, when they are there. -/
def fraction : List Char → List Char × List Char
  | '.' :: rest =>
    match digitsRun Char.isDigit rest with
    | some (ds, r) => ('.' :: ds, r)
    | none => ([], '.' :: rest)
  | cs => ([], cs)

/-- The exponent of a decimal number, when it is there. -/
def exponent : List Char → List Char × List Char
  | e :: rest =>
    if e = 'e' || e = 'E' then
      let (sign, body) := match rest with
        | '+' :: r => (['+'], r)
        | '-' :: r => (['-'], r)
        | r => ([], r)
      match digitsRun Char.isDigit body with
      | some (ds, r) => (e :: sign ++ ds, r)
      | none => ([], e :: rest)
    else ([], e :: rest)
  | [] => ([], [])

/-- A decimal number: an optional sign, `0` or digits not led by a zero, then a
fraction and an exponent, each when it is there.  With either it is a double. -/
def decimal (cs : List Char) : Option (Value × List Char) := do
  let (sign, body) := match cs with
    | '+' :: r => (['+'], r)
    | '-' :: r => (['-'], r)
    | r => ([], r)
  let (whole, rest) ← match body with
    | '0' :: r => some (['0'], r)
    | c :: r => if c.isDigit then digitsRun Char.isDigit (c :: r) else none
    | [] => none
  let (point, rest) := fraction rest
  let (power, rest) := exponent rest
  let text := (sign ++ whole ++ point ++ power).filter (· ≠ '_')
  if point.isEmpty && power.isEmpty then
    let n : Int := digitsValue 10 (whole.filter (· ≠ '_'))
    some (.int (if sign = ['-'] then -n else n), rest)
  else do
    let (negative, m, e) ← Numeral.decimal? text
    some (.float (Numeral.toDouble negative m e), rest)

/-- Exactly `n` digits. -/
def fixedDigits (n : Nat) (cs : List Char) : Option (List Char × List Char) :=
  let ds := cs.take n
  if ds.length = n && ds.all Char.isDigit then some (ds, cs.drop n) else none

/-- Two digits no greater than a bound. -/
def upTo (bound : Nat) (cs : List Char) : Option (List Char × List Char) := do
  let (ds, rest) ← fixedDigits 2 cs
  if digitsValue 10 ds ≤ bound then some (ds, rest) else none

/-- A time of day: hours, minutes and seconds, and a fraction of a second of which
the first six digits count. -/
def time (cs : List Char) : Option (Clock × List Char) := do
  let (h, rest) ← upTo 23 cs
  let rest ← match rest with | ':' :: r => some r | _ => none
  let (m, rest) ← upTo 59 rest
  let rest ← match rest with | ':' :: r => some r | _ => none
  let (s, rest) ← upTo 59 rest
  let (frac, rest) := match rest with
    | '.' :: d :: r =>
      if d.isDigit then (d :: r.takeWhile Char.isDigit, r.dropWhile Char.isDigit)
      else ([], rest)
    | _ => ([], rest)
  let six := frac.take 6
  let micro := digitsValue 10 (six ++ List.replicate (6 - six.length) '0')
  some (⟨digitsValue 10 h, digitsValue 10 m, digitsValue 10 s, micro⟩, rest)

/-- A time offset: `Z`, or a sign with hours and minutes, as minutes east of UTC. -/
def offset : List Char → Option Int × List Char
  | 'Z' :: rest => (some 0, rest)
  | 'z' :: rest => (some 0, rest)
  | s :: rest =>
    if s = '+' || s = '-' then
      match upTo 23 rest with
      | some (h, ':' :: r) =>
        match upTo 59 r with
        | some (m, after) =>
          let total : Int := (digitsValue 10 h * 60 + digitsValue 10 m : Nat)
          (some (if s = '-' then -total else total), after)
        | none => (none, s :: rest)
      | _ => (none, s :: rest)
    else (none, s :: rest)
  | [] => (none, [])

/-- A date, with a time and an offset when they follow, and the text after it; the
moment is `none` when the date is not a day of the calendar. -/
def dateTime (cs : List Char) : Option (Option Moment × List Char) := do
  let (y, rest) ← fixedDigits 4 cs
  let rest ← match rest with | '-' :: r => some r | _ => none
  let (mo, rest) ← fixedDigits 2 rest
  let month := digitsValue 10 mo
  if month < 1 || 12 < month then none
  let rest ← match rest with | '-' :: r => some r | _ => none
  let (d, rest) ← fixedDigits 2 rest
  let day := digitsValue 10 d
  if day < 1 || 31 < day then none
  let date : Date := ⟨digitsValue 10 y, month, day⟩
  let checked (m : Moment) : Option Moment := if date.valid then some m else none
  match rest with
  | t :: more =>
    if t = 'T' || t = 't' || t = ' ' then
      match time more with
      | some (clock, after) =>
        let (zone, after) := offset after
        some (checked (.dateTime date clock zone), after)
      | none => some (checked (.date date), rest)
    else some (checked (.date date), rest)
  | [] => some (checked (.date date), rest)

/-- A value that is no string, array, inline table or boolean: a date or time, a
number, or an infinity or not-a-number. -/
def scalar (cs : List Char) : Option (Value × List Char) :=
  match dateTime cs with
  | some (some m, rest) => some (.stamp m, rest)
  | some (none, _) => none
  | none =>
    match time cs with
    | some (clock, rest) => some (.stamp (.time clock), rest)
    | none =>
      match prefixed cs with
      | some r => some r
      | none =>
        match decimal cs with
        | some r => some r
        | none =>
          match cs with
          | 'i' :: 'n' :: 'f' :: rest => some (.float (1.0 / 0.0), rest)
          | 'n' :: 'a' :: 'n' :: rest => some (.float (0.0 / 0.0), rest)
          | s :: 'i' :: 'n' :: 'f' :: rest =>
            if s = '+' then some (.float (1.0 / 0.0), rest)
            else if s = '-' then some (.float (-(1.0 / 0.0)), rest)
            else none
          | s :: 'n' :: 'a' :: 'n' :: rest =>
            if s = '+' || s = '-' then some (.float (0.0 / 0.0), rest) else none
          | _ => none

/-! ## Values -/

mutual

/-- A value and the text after it; `fuel` bounds the depth of the reading. -/
def value : Nat → List Char → Option (Value × List Char)
  | 0, _ => none
  | fuel + 1, cs =>
    match cs with
    | '"' :: '"' :: '"' :: rest => (string '"' true rest).map fun (s, r) => (.str s, r)
    | '"' :: rest => (string '"' false rest).map fun (s, r) => (.str s, r)
    | '\'' :: '\'' :: '\'' :: rest => (string '\'' true rest).map fun (s, r) => (.str s, r)
    | '\'' :: rest => (string '\'' false rest).map fun (s, r) => (.str s, r)
    | 't' :: 'r' :: 'u' :: 'e' :: rest => some (.bool true, rest)
    | 'f' :: 'a' :: 'l' :: 's' :: 'e' :: rest => some (.bool false, rest)
    | '[' :: rest => do
      let rest ← skipSpace false rest
      match rest with
      | ']' :: after => some (.list [], after)
      | _ => do
        let (items, after) ← items fuel [] rest
        some (.list items, after)
    | '\x7b' :: rest =>
      match skipBlanks rest with
      | '\x7d' :: after => some (.obj [], after)
      | body => do
        let (t, after) ← fields fuel [] [] body
        some (.obj t, after)
    | _ => scalar cs

/-- The items of an array from one that starts here, and the text after its closing
bracket. -/
def items : Nat → List Value → List Char → Option (List Value × List Char)
  | 0, _, _ => none
  | fuel + 1, acc, cs => do
    let (v, rest) ← value fuel cs
    let rest ← skipSpace false rest
    match rest with
    | ']' :: after => some ((v :: acc).reverse, after)
    | ',' :: after => do
      let after ← skipSpace false after
      match after with
      | ']' :: r => some ((v :: acc).reverse, r)
      | _ => items fuel (v :: acc) after
    | _ => none

/-- The fields of an inline table from a pair that starts here, and the text after
its closing brace; `frozen` are the keys of its whole values. -/
def fields : Nat → List Key → Table → List Char → Option (Table × List Char)
  | 0, _, _, _ => none
  | fuel + 1, frozen, acc, cs => do
    let (k, rest) ← key cs
    let rest ← match rest with | '=' :: r => some (skipBlanks r) | _ => none
    let (v, rest) ← value fuel rest
    let stem ← k.getLast?
    if frozen.any fun f => f.isPrefixOf k then none
    let acc ← Table.update false (Table.add stem v) k.dropLast acc
    match skipBlanks rest with
    | '\x7d' :: after => some (acc, after)
    | ',' :: after =>
      fields fuel (if isWhole v then k :: frozen else frozen) acc (skipBlanks after)
    | _ => none

end

/-! ## Documents -/

/-- A document being read. -/
structure Reading where
  /-- The root table so far. -/
  root : Table := []
  /-- The marks so far. -/
  marks : Marks := []
  /-- Tables opened by dotted keys, declared at the next header. -/
  pending : List Key := []
  /-- The key of the last header. -/
  header : Key := []

namespace Reading

/-- Puts in a pair under the last header.  The tables its dotted key opens must not be
declared, the table it goes into must not be frozen, and its name must be new. -/
def put (r : Reading) (k : Key) (v : Value) : Option Reading := do
  let stem ← k.getLast?
  let opened := ((List.range (k.length - 1)).map fun i => r.header ++ k.take (i + 1))
  if opened.any fun o => r.marks.has o .declared then none
  let parent := r.header ++ k.dropLast
  if r.marks.has parent .frozen then none
  let root ← Table.update true (Table.add stem v) parent r.root
  let marks := if isWhole v then ⟨r.header ++ k, .frozen, true⟩ :: r.marks else r.marks
  some { r with root, marks, pending := r.pending ++ opened }

/-- Declares the tables that dotted keys opened. -/
def settle (r : Reading) : Reading :=
  { r with marks := r.pending.map (fun k => ⟨k, .declared, false⟩) ++ r.marks, pending := [] }

/-- Opens the table of a header. -/
def openTable (r : Reading) (k : Key) : Option Reading := do
  if r.marks.has k .declared || r.marks.has k .frozen then none
  let root ← Table.update true some k r.root
  some { r with root, marks := ⟨k, .declared, false⟩ :: r.marks, header := k }

/-- Appends a fresh table to the array of a header. -/
def openArrayTable (r : Reading) (k : Key) : Option Reading := do
  if r.marks.has k .frozen then none
  let stem ← k.getLast?
  let append (t : Table) : Option Table :=
    match t.lookup stem with
    | some (.list items) => some (t.set stem (.list (items ++ [.obj []])))
    | some _ => none
    | none => some (t ++ [(stem, .list [.obj []])])
  let root ← Table.update true append k.dropLast r.root
  some { r with root, marks := ⟨k, .declared, false⟩ :: r.marks.clear k, header := k }

end Reading

/-- The end of a statement: blanks, a comment, then a line end or the end of the text.
Gives the text of the next line, or none at the end. -/
def lineEnd (cs : List Char) : Option (Option (List Char)) := do
  match ← skipComment (skipBlanks cs) with
  | [] => some none
  | '\n' :: rest => some (some rest)
  | _ => none

/-- A header's key after its opening brackets, and the text after its closing ones. -/
def headerKey (closing : List Char) (cs : List Char) : Option (Key × List Char) := do
  let (k, rest) ← key (skipBlanks cs)
  if closing.isPrefixOf rest then some (k, rest.drop closing.length) else none

/-- The statements of a document from here on; `fuel` bounds the lines read. -/
def statements : Nat → Reading → List Char → Option Reading
  | 0, _, _ => none
  | fuel + 1, r, cs =>
    let next (r : Reading) (rest : List Char) : Option Reading := do
      match ← lineEnd rest with
      | none => some r
      | some line => statements fuel r line
    match skipBlanks cs with
    | [] => some r
    | '\n' :: rest => statements fuel r rest
    | '[' :: '[' :: rest => do
      let (k, after) ← headerKey [']', ']'] rest
      next (← r.settle.openArrayTable k) after
    | '[' :: rest => do
      let (k, after) ← headerKey [']'] rest
      next (← r.settle.openTable k) after
    | '#' :: rest => next r ('#' :: rest)
    | line => do
      let (k, rest) ← key line
      let rest ← match rest with | '=' :: more => some (skipBlanks more) | _ => none
      let (v, after) ← value (2 * rest.length + 4) rest
      next (← r.put k v) after

/-- The table of a TOML text, if it reads.  Line ends of a carriage return and a
line feed count as line feeds. -/
def read (text : String) : Option Table :=
  let rec unifyLineEnds : List Char → List Char
    | '\r' :: '\n' :: rest => '\n' :: unifyLineEnds rest
    | c :: rest => c :: unifyLineEnds rest
    | [] => []
  let cs := unifyLineEnds text.toList
  (statements (cs.length + 2) {} cs).map (·.root)

end ScriptGate.Toml
