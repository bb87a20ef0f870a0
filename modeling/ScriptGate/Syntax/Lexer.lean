import ScriptGate.Syntax.Chars
import ScriptGate.Syntax.Token
import ScriptGate.Text.Alphabetic

/-!
# The scanner

The scanner cuts the next token out of a text, given where the last one
stopped and what the grammar expects.  What a character begins depends on
that expectation, so the grammar asks for one token at a time.

* Where an operand may start (`Expect.operand`), `/` begins a regular
  expression and `<!--` or `-->` begins a comment that runs to the end of the
  line.  After an operand (`Expect.operator`), `/` divides.
* Blanks, `//` comments to the end of the line and closed `/* */` comments
  stand between tokens.  An unclosed `/*` is a slash and a star.  A first
  line that begins with `#!` is skipped; a later one is one token that no
  grammar rule takes.
* A repair may mark stretches of the text as skipped: the scanner reads them
  as blanks.
* Every token is the longest that fits.  Numbers follow the literal forms of
  the language (hex, octal, binary, decimal, exponents, separators `_`, a
  BigInt `n`); a name is made of name characters and `\u` escapes; a string
  ends at its quote, and an unclosed string at the end of its line.
* A backslash that begins no escape is a token of its own, no grammar rule
  takes, as long as the escape it starts could run (`strayEscapeEnd`).

Templates and elements have their own readers: `templatePiece` reads plain
characters, escapes, `${` and the closing backquote inside a template;
`tagToken` and `childToken` read the inside of a tag and the text between
tags.

`semicolonSupplied` decides whether a statement may end at the gap before a
token without a semicolon: at the end of the text, before `}`, or after a line
break when the next token cannot continue the statement.
-/

namespace ScriptGate

/-- What the grammar expects at the next token. -/
inductive Expect where
  /-- An operand may start here. -/
  | operand
  /-- An operand has just ended. -/
  | operator
deriving Repr, DecidableEq, Inhabited

/-- A text and the stretches of it that a repair skips. -/
structure Scanner where
  /-- The characters of the text. -/
  text : Array Char
  /-- Stretches `[start, stop)` read as blanks, latest first. -/
  skips : List (Nat × Nat) := []

/-- The stretch between two tokens. -/
structure Gap where
  /-- Where the next token starts. -/
  next : Nat
  /-- Where the last comment or skipped stretch of the gap ends; where the gap
  starts if it has none. -/
  lastEnd : Nat
  /-- The ends of the comments and skipped stretches of the gap, in order. -/
  marks : List Nat
deriving Repr, Inhabited

namespace Scanner

/-- The character at `i`, if any. -/
def at? (s : Scanner) (i : Nat) : Option Char := s.text[i]?

/-- Whether the character at `i` satisfies `p`. -/
def charIs (s : Scanner) (i : Nat) (p : Char → Bool) : Bool :=
  match s.at? i with
  | some c => p c
  | none => false

/-- Whether the character at `i` is `c`. -/
def charEq (s : Scanner) (i : Nat) (c : Char) : Bool := s.at? i == some c

/-- Whether the text has `w` at `i`: each character of `w` in turn is matched at the
next position, the position being dropped at the first mismatch. -/
def hasAt (s : Scanner) (i : Nat) (w : String) : Bool :=
  (w.toList.foldl (fun k c => k.bind fun k => if s.charEq k c then some (k + 1) else none)
    (some i)).isSome

/-- The characters `[a, b)`. -/
def slice (s : Scanner) (a b : Nat) : String :=
  String.ofList ((s.text.extract a b).toList)

/-- The first position at or after `i` where `p` fails. -/
def scanWhile (s : Scanner) (p : Char → Bool) (i : Nat) : Nat :=
  if h : i < s.text.size then
    if p s.text[i] then s.scanWhile p (i + 1) else i
  else i
termination_by s.text.size - i

/-- Where the `*/` that closes a comment ends, searching from `j`. -/
def closeComment (s : Scanner) (j : Nat) : Option Nat :=
  if h : j + 1 < s.text.size then
    if s.text[j] = '*' ∧ s.text[j + 1] = '/' then some (j + 2) else s.closeComment (j + 1)
  else none
termination_by s.text.size - j

/-- The skipped stretch that starts at `i`, if any: the stretches stand latest first,
so those that start after `i` are passed and the search ends at the first that
starts before it. -/
def skipAt (s : Scanner) (i : Nat) : Option Nat :=
  (((s.skips.dropWhile (·.1 > i)).takeWhile (·.1 = i)).find? (i < ·.2)).map (·.2)

/-- Whether a character ends an element of an `<!--` comment's line. -/
def endsHtmlLine (c : Char) : Bool := c = '\n' ∨ c.toNat = 0x2028 ∨ c.toNat = 0x2029

/-- Whether only blanks stand in `[a, b)`. -/
def blanksIn (s : Scanner) (a b : Nat) : Bool := (s.text.extract a b).all Chars.isBlank

/-- Whether the text starts at `i`: nothing but blanks stands before it, or blanks
around a skipped stretch that starts the text. -/
def leadsText (s : Scanner) (i : Nat) : Bool :=
  s.blanksIn 0 i || s.skips.any fun (a, b) => b ≤ i ∧ s.blanksIn 0 a ∧ s.blanksIn b i

/-- The end of the comment or skipped stretch that starts at `i`, if one does.  A
line that begins with `#!` is skipped where the text starts.  A comment starts
with `/`, `<`, `-` or `#`, so no other character is looked at further. -/
def triviaAt (s : Scanner) (mode : Expect) (i : Nat) : Option Nat :=
  match s.skipAt i with
  | some b => some b
  | none =>
    if !s.charIs i (fun c => c = '/' ∨ c = '<' ∨ c = '-' ∨ c = '#') then none
    else if s.hasAt i "//" then some (s.scanWhile (fun c => !Chars.isLineEnd c) (i + 2))
    else if s.hasAt i "/*" then s.closeComment (i + 2)
    else if mode = .operand ∧ (s.hasAt i "<!--" ∨ s.hasAt i "-->") then
      some (s.scanWhile (fun c => !endsHtmlLine c) i)
    else if s.hasAt i "#!" ∧ s.leadsText i then some (s.scanWhile (· ≠ '\n') i)
    else none

/-- Skips blanks, comments and skipped stretches from `i`. -/
def gapFrom (s : Scanner) (mode : Expect) (i : Nat) (last : Nat) (marks : List Nat) : Gap :=
  if h : i < s.text.size then
    match s.triviaAt mode i with
    | some b => if i < b then s.gapFrom mode b b (b :: marks) else ⟨i, last, marks.reverse⟩
    | none =>
      if Chars.isBlank s.text[i] then s.gapFrom mode (i + 1) last marks
      else ⟨i, last, marks.reverse⟩
  else ⟨i, last, marks.reverse⟩
termination_by s.text.size - i

/-- The gap that starts at `i`. -/
def gap (s : Scanner) (mode : Expect) (i : Nat) : Gap := s.gapFrom mode i i []

/-! ## Tokens -/

/-- Whether four hex digits stand at `i`. -/
def hex4At (s : Scanner) (i : Nat) : Bool :=
  (List.range 4).all fun k => s.charIs (i + k) Chars.isHexDigit

/-- The length of a `\u` escape in a name at `i`, or 0. -/
def nameEscape (s : Scanner) (i : Nat) : Nat :=
  if s.charEq i '\\' ∧ s.charEq (i + 1) 'u' then
    if s.charEq (i + 2) '{' then
      let k := s.scanWhile Chars.isHexDigit (i + 3)
      if k > i + 3 ∧ s.charEq k '}' then k + 1 - i else 0
    else if s.hex4At (i + 2) then 6 else 0
  else 0

/-- The end of a name whose rest starts at `i`. -/
def nameRest (s : Scanner) (i : Nat) : Nat :=
  if h : i < s.text.size then
    if Chars.isNameChar s.text[i] then s.nameRest (i + 1)
    else
      let n := s.nameEscape i
      if n > 0 then s.nameRest (i + n) else i
  else i
termination_by s.text.size - i

/-- The end of `d (_? d)*` from `i`, for digits `d` in the class `p`; `i` if no digit stands there. -/
def digitRun (s : Scanner) (p : Char → Bool) (i : Nat) : Nat :=
  if s.charIs i p then go (i + 1) else i
where
  /-- Continues a run after a digit. -/
  go (j : Nat) : Nat :=
    if h : j < s.text.size then
      if p s.text[j] then go (j + 1)
      else if s.text[j] = '_' ∧ s.charIs (j + 1) p then go (j + 2)
      else j
    else j
  termination_by s.text.size - j

/-- The end of an exponent `e[+-]digits` at `j`, or `none`. -/
def exponentAt (s : Scanner) (j : Nat) : Option Nat :=
  if s.charEq j 'e' ∨ s.charEq j 'E' then
    let k := if s.charEq (j + 1) '+' ∨ s.charEq (j + 1) '-' then j + 2 else j + 1
    let e := s.digitRun Char.isDigit k
    if e > k then some e else none
  else none

/-- The ends of the integer forms `0` and `0? [1-9] (_? digits)?` at `i`. -/
def integerEnds (s : Scanner) (i : Nat) : List Nat :=
  let nonzero (c : Char) : Bool := '1' ≤ c ∧ c ≤ '9'
  let tail (j : Nat) : Nat :=
    if s.charEq j '_' ∧ s.charIs (j + 1) Char.isDigit then s.digitRun Char.isDigit (j + 1)
    else s.digitRun Char.isDigit j
  let zero := if s.charEq i '0' then [i + 1] else []
  let withZero := if s.charEq i '0' ∧ s.charIs (i + 1) nonzero then [tail (i + 2)] else []
  let plain := if s.charIs i nonzero then [tail (i + 1)] else []
  zero ++ withZero ++ plain

/-- The end of the longest numeric literal at `i`, or `i`. -/
def numberEnd (s : Scanner) (i : Nat) : Nat :=
  let isOct (c : Char) : Bool := '0' ≤ c ∧ c ≤ '7'
  let isBin (c : Char) : Bool := c = '0' ∨ c = '1'
  let radix (letters : List Char) (p : Char → Bool) : List Nat :=
    if s.charEq i '0' ∧ s.charIs (i + 1) (letters.contains ·) then
      let e := s.digitRun p (i + 2)
      if e > i + 2 then [e] else []
    else []
  let hex := radix ['x', 'X'] Chars.isHexDigit
  let bin := radix ['b', 'B'] isBin
  let oct := radix ['o', 'O'] isOct ++
    (if s.charEq i '0' then (let e := s.digitRun isOct (i + 1); if e > i + 1 then [e] else []) else [])
  let digits := (let e := s.digitRun Char.isDigit i; if e > i then [e] else [])
  let big := (hex ++ bin ++ oct ++ digits).filterMap fun e => if s.charEq e 'n' then some (e + 1) else none
  let ints := s.integerEnds i
  let withPoint := ints.filterMap fun j =>
    if s.charEq j '.' then
      let k := s.digitRun Char.isDigit (j + 1)
      some ((s.exponentAt k).getD k)
    else none
  let leadingPoint :=
    if s.charEq i '.' ∧ s.charIs (i + 1) Char.isDigit then
      let k := s.digitRun Char.isDigit (i + 1)
      [(s.exponentAt k).getD k]
    else []
  let withExponent := ints.filterMap s.exponentAt
  (hex ++ bin ++ oct ++ digits ++ big ++ withPoint ++ leadingPoint ++ withExponent).foldl max i

/-- The length of an escape at `j` inside a string or template, or 0. -/
def escapeLength (s : Scanner) (j : Nat) : Nat :=
  match s.at? (j + 1) with
  | none => 0
  | some c =>
    let isOct (c : Char) : Bool := '0' ≤ c ∧ c ≤ '7'
    let lineBreak (c : Char) : Bool := c = '\n' ∨ c.toNat = 0x2028 ∨ c.toNat = 0x2029
    let single := if c = 'x' ∨ c = 'u' ∨ isOct c then 0 else 2
    let octal :=
      if isOct c then
        if s.charIs (j + 2) isOct then (if s.charIs (j + 3) isOct then 4 else 3) else 2
      else 0
    let hex2 := if c = 'x' ∧ s.charIs (j + 2) Chars.isHexDigit ∧ s.charIs (j + 3) Chars.isHexDigit then 4 else 0
    let hex4 := if c = 'u' ∧ s.hex4At (j + 2) then 6 else 0
    let braces :=
      if c = 'u' ∧ s.charEq (j + 2) '{' then
        let k := s.scanWhile Chars.isHexDigit (j + 3)
        if k > j + 3 ∧ s.charEq k '}' then k + 1 - j else 0
      else 0
    let continuation := if (c = '\r' ∨ c = '?') ∧ s.charIs (j + 2) lineBreak then 3 else 0
    [single, octal, hex2, hex4, braces, continuation].foldl max 0

/-- Characters that a string holds as they are: all but its quote, a backslash and line ends. -/
def plainStringChar (q c : Char) : Bool := c ≠ q ∧ c ≠ '\\' ∧ c ≠ '\n' ∧ c ≠ '\r'

/-- Where a backslash at `i` that begins no escape stops being read as the start
of one: after `\u\x7b` and its hex digits, after `\u` and fewer than four hex
digits, after `\x` and fewer than two, or right after the backslash. -/
def strayEscapeEnd (s : Scanner) (i : Nat) : Nat :=
  if s.charEq (i + 1) 'u' then
    if s.charEq (i + 2) '\x7b' then s.scanWhile Chars.isHexDigit (i + 3)
    else min (s.scanWhile Chars.isHexDigit (i + 2)) (i + 5)
  else if s.charEq (i + 1) 'x' then min (s.scanWhile Chars.isHexDigit (i + 2)) (i + 3)
  else i + 1

/-- Whether the text at `k` may follow a stretch skipped inside a string or a
template: the closing quote `q`, a backquote or `$\x7b` for a template, or an
escape. -/
def resumesQuoted (s : Scanner) (q : Char) (k : Nat) : Bool :=
  s.charEq k q || (q == '`' && s.hasAt k "$\x7b") || (s.charEq k '\\' && s.escapeLength k > 0)

/-- The rest of a string from `j`: where it stops, whether its quote closes it,
and how many parts it has.  A skipped stretch inside it is one part, if the
quote or an escape follows it. -/
def stringRest (s : Scanner) (q : Char) (j pieces : Nat) : Nat × Bool × Nat :=
  if h : j < s.text.size then
    let c := s.text[j]
    match s.skipAt j with
    | some k =>
      if j < k ∧ s.resumesQuoted q k then s.stringRest q k (pieces + 1) else (j, false, pieces)
    | none =>
    if c = q then (j + 1, true, pieces + 1)
    else if c = '\\' then
      let e := s.escapeLength j
      if 0 < e then s.stringRest q (j + e) (pieces + 1) else (j, false, pieces)
    else if c = '\n' ∨ c = '\r' then (j, false, pieces)
    else
      let k := s.scanWhile (plainStringChar q) j
      if j < k then s.stringRest q k (pieces + 1) else (j, false, pieces)
  else (j, false, pieces)
termination_by s.text.size - j

mutual

/-- The end of a regular expression pattern from `j`. -/
def patternEnd (s : Scanner) (j : Nat) : Nat :=
  if h : j < s.text.size then
    let c := s.text[j]
    if c = '/' ∨ c = '\n' then j
    else if c = '\\' then
      if s.charIs (j + 1) (· ≠ '\n') then s.patternEnd (j + 2) else j
    else if c = '[' then
      match s.classEnd (j + 1) with
      | some k => if j < k then s.patternEnd k else j
      | none => j
    else s.patternEnd (j + 1)
  else j
termination_by (s.text.size - j, 1)

/-- The end of a character class `[…]` of a pattern, from `k` after its bracket. -/
def classEnd (s : Scanner) (k : Nat) : Option Nat :=
  if h : k < s.text.size then
    let c := s.text[k]
    if c = ']' then some (k + 1)
    else if c = '\n' then none
    else if c = '\\' then
      if s.charIs (k + 1) (· ≠ '\n') then s.classEnd (k + 2) else none
    else s.classEnd (k + 1)
  else none
termination_by (s.text.size - k, 0)

end

/-- Operators and punctuation, longest first. -/
def punctuators : List String :=
  [">>>=", "...", "===", "!==", "**=", "<<=", ">>=", ">>>", "&&=", "||=", "??=",
   "=>", "==", "!=", "<=", ">=", "&&", "||", "??", "?.", "++", "--", "+=", "-=", "*=",
   "/=", "%=", "&=", "|=", "^=", "**", "<<", ">>",
   "\x7b", "\x7d", "(", ")", "[", "]", ";", ",", "<", ">", "+", "-", "*", "/", "%", "&", "|",
   "^", "!", "~", "?", ":", "=", ".", "@"]

/-- The punctuation at `i`, longest first; `?.` before a digit is a question mark.
No punctuator is empty, so one that stands at `i` starts with the character there. -/
def punctAt (s : Scanner) (i : Nat) : Option String :=
  punctuators.find? fun p =>
    s.charEq i p.front ∧ s.hasAt i p ∧ ¬ (p = "?." ∧ s.charIs (i + 2) Char.isDigit)

/-- Whether a token can start with the character. -/
def startsToken (c : Char) : Bool :=
  Chars.isNameChar c ∨ Chars.isBlank c ∨ c = '"' ∨ c = '\'' ∨ c = '`' ∨ c = '#' ∨
    Chars.isPunctuation c

/-- The token at `i`, where no blank or comment stands. -/
def tokenAt (s : Scanner) (mode : Expect) (i : Nat) : Token :=
  match s.at? i with
  | none => ⟨.eof, i, i⟩
  | some c =>
    if Chars.isNameStart c ∨ s.nameEscape i > 0 then
      let first := if Chars.isNameStart c then 1 else s.nameEscape i
      ⟨.word, i, s.nameRest (i + first)⟩
    else if c = '#' ∧ (s.charIs (i + 1) Chars.isNameStart ∨ s.nameEscape (i + 1) > 0) then
      let first := if s.charIs (i + 1) Chars.isNameStart then 1 else s.nameEscape (i + 1)
      ⟨.privateName, i, s.nameRest (i + 1 + first)⟩
    else if c.isDigit ∨ (c = '.' ∧ s.charIs (i + 1) Char.isDigit) then
      ⟨.number, i, s.numberEnd i⟩
    else if c = '"' ∨ c = '\'' then
      let (stop, closed, pieces) := s.stringRest c (i + 1) 1
      ⟨.string c closed pieces, i, stop⟩
    else if c = '/' ∧ mode = .operand then
      let e := s.patternEnd (i + 1)
      if i + 1 < e then
        if s.charEq e '/' then
          ⟨.regex e, i, s.scanWhile (fun c => 'a' ≤ c ∧ c ≤ 'z') (e + 1)⟩
        else ⟨.regexOpen, i, e⟩
      else ⟨.punct "/", i, i + 1⟩
    else if c = '`' then ⟨.punct "`", i, i + 1⟩
    else
      match s.punctAt i with
      | some p => ⟨.punct p, i, i + p.length⟩
      | none =>
        if c = '\\' then ⟨.junk, i, s.strayEscapeEnd i⟩
        else if c = '#' ∧ s.charEq (i + 1) '!' then ⟨.junk, i, s.scanWhile (· ≠ '\n') i⟩
        else ⟨.junk, i, max (i + 1) (s.scanWhile (fun c => !startsToken c) i)⟩

/-! ## Templates and elements -/

/-- Plain template characters from `j`: they stop before a backquote, `${` or a
backslash, and fail at the end of the text. -/
def templateChars (s : Scanner) (j : Nat) : Option Nat :=
  if h : j < s.text.size then
    let c := s.text[j]
    if c = '`' ∨ c = '\\' then some j
    else if c = '$' ∧ s.charEq (j + 1) '{' then some j
    else s.templateChars (j + 1)
  else none
termination_by s.text.size - j

/-- The piece of a template at `i`: plain characters, one escape, `${` or the
closing backquote.  Where plain characters run to the end of the text, the
template cannot continue and the text is read as ordinary tokens. -/
def templateAt (s : Scanner) (i : Nat) : Token :=
  match s.templateChars i with
  | some k =>
    if i < k then ⟨.templateText 1, i, k⟩
    else if s.charEq i '`' then ⟨.punct "`", i, i + 1⟩
    else if s.charEq i '$' then ⟨.punct "$\x7b", i, i + 2⟩
    else
      let e := s.escapeLength i
      if 0 < e then ⟨.templateText 1, i, i + e⟩ else s.tokenAt .operator i
  | none => s.tokenAt .operator (s.gap .operator i).next

/-- The next piece inside a template at `i`.  A skipped stretch at `i` is passed
over when the closing backquote, `${` or an escape follows it; otherwise the
token after it is read as an ordinary one, which no template takes. -/
def templatePiece (s : Scanner) (i : Nat) : Token :=
  match s.skipAt i with
  | some k => if s.resumesQuoted '`' k then s.templateAt k else s.tokenAt .operator k
  | none => s.templateAt i

/-- Characters of an element name: name characters and `-`. -/
def isTagChar (c : Char) : Bool := Chars.isNameChar c ∨ c = '-'

/-- The token at `i` inside a tag. -/
def tagToken (s : Scanner) (i : Nat) : Token :=
  match s.at? i with
  | none => ⟨.eof, i, i⟩
  | some c =>
    if Chars.isNameStart c then ⟨.word, i, s.scanWhile isTagChar (i + 1)⟩
    else if c = '"' ∨ c = '\'' then
      let k := s.scanWhile (· ≠ c) (i + 1)
      if s.charEq k c then ⟨.string c true 3, i, k + 1⟩ else ⟨.string c false 2, i, k⟩
    else if s.hasAt i "/>" then ⟨.punct "/>", i, i + 2⟩
    else s.tokenAt .operator i

/-- The token at `i` between the tags of an element. -/
def childToken (s : Scanner) (i : Nat) : Token :=
  match s.at? i with
  | none => ⟨.eof, i, i⟩
  | some c =>
    if c = '<' ∨ c = '{' then ⟨.punct (String.singleton c), i, i + 1⟩
    else ⟨.elementText, i, s.scanWhile (fun c => c ≠ '<' ∧ c ≠ '{' ∧ c ≠ '}' ∧ c ≠ '>') i⟩

/-! ## Leaving out a semicolon -/

/-- Blanks for the semicolon rule. -/
def isSpace (c : Char) : Bool := Chars.isLineSpace c

/-- After a line break at `j`: skips blanks and comments; `none` when a slash
that begins no comment stands there. -/
def afterBreak (s : Scanner) (j : Nat) : Option Nat :=
  if h : j < s.text.size then
    let c := s.text[j]
    if isSpace c then s.afterBreak (j + 1)
    else if c = '/' ∧ s.charEq (j + 1) '/' then
      let k := s.scanWhile (fun c => !Chars.breaksStatement c) (j + 2)
      if j < k then s.afterBreak k else some j
    else if c = '/' ∧ s.charEq (j + 1) '*' then
      match s.closeComment (j + 2) with
      | some k => if j < k then s.afterBreak k else some j
      | none => some s.text.size
    else if c = '/' then none
    else some j
  else some j
termination_by s.text.size - j

/-- Whether the token at `j`, after a line break, lets the statement before it end:
a `.` does only when a digit follows it, as in `.5`. -/
def endsAfterBreak (s : Scanner) (j : Nat) : Bool :=
  match s.at? j with
  | none => true
  | some c =>
    if "`,:;*%><=[(?^|&/".toList.contains c then false
    else if c = '.' then s.charIs (j + 1) Char.isDigit
    else if c = '+' then s.charEq (j + 1) '+'
    else if c = '-' then s.charEq (j + 1) '-'
    else if c = '!' then !s.charEq (j + 1) '='
    else if c = 'i' then
      if !s.charEq (j + 1) 'n' then true
      else if !s.charIs (j + 2) Unicode.isAlphabetic then false
      else if !s.hasAt (j + 2) "stanceof" then true
      else s.charIs (j + 10) Unicode.isAlphabetic
    else true

/-- Whether a statement may end without a semicolon when scanning from `j`:
blanks up to the end of the text, a `}`, or a line break after which the next
token cannot continue the statement. -/
def supplyFrom (s : Scanner) (j : Nat) : Bool :=
  if h : j < s.text.size then
    let c := s.text[j]
    if c = '}' then true
    else if Chars.breaksStatement c then
      match s.afterBreak (j + 1) with
      | some k => s.endsAfterBreak k
      | none => false
    else if isSpace c then s.supplyFrom (j + 1)
    else false
  else true
termination_by s.text.size - j

/-- Whether a statement may end without a semicolon in the gap after `prevEnd`:
the rule is tried where the gap starts and after each comment in it. -/
def semicolonSupplied (s : Scanner) (prevEnd : Nat) (g : Gap) : Bool :=
  (prevEnd :: g.marks).any s.supplyFrom

end Scanner

end ScriptGate
