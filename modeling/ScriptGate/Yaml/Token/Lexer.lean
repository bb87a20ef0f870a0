import ScriptGate.Yaml.Token

/-!
# Reading tokens from a YAML text

The lexer reads tokens on demand.  Most indicators are one or three
characters; scalars run by the rules of their style; and the lexer keeps the
block structure, so that it can supply the starts and ends of block
collections that the text writes only by indentation.

* *Indentation.*  A block collection opens when a key, value or entry stands
  further right than the current indentation, which is pushed; a line that
  starts left of it closes collections until the indentation fits.  Inside
  brackets (the *flow level* is above zero) indentation means nothing.
* *Simple keys.*  A scalar, alias, anchor, tag or opening bracket may turn out
  to be a key when a `:` follows it on the same line within 1024 characters.
  The lexer remembers one such *key spot* per flow level and, when the `:`
  comes, puts a key token (and in block context a mapping start) in front of
  the token of the spot.  A spot at the indentation of a block mapping *must*
  become a key: when the line ends first, the text does not read.  While a
  spot is open the lexer reads further before it hands out the token of the
  spot, so a fault further on the line is found first.
* *Breaks.*  A line ends at a line feed, a carriage return, U+0085, U+2028 or
  U+2029; the text ends at the character `\0` that the lexer reads past its
  last character.  A byte-order mark opening the text is passed over, and no
  byte-order mark takes a column.
* Tabs may stand inside scalars and between tokens on a line, but never where
  a token starts.

Every loop of the lexer reads at least one character per turn, so each runs at
most as many turns as characters remain.
-/

namespace ScriptGate.Yaml

/-- A place where a key may start, for as long as the line lasts. -/
structure KeySpot where
  /-- The number of the token the key would stand before. -/
  token : Nat
  /-- Whether the spot must become a key. -/
  required : Bool
  /-- The character index of the spot. -/
  index : Nat
  /-- The line of the spot. -/
  line : Nat
  /-- The column of the spot. -/
  column : Nat
deriving Inhabited

/-- The state of reading tokens. -/
structure Lexer where
  /-- The characters of the text. -/
  text : Array Char
  /-- The index of the next character. -/
  index : Nat := 0
  /-- The line of the next character, from 0. -/
  line : Nat := 0
  /-- The column of the next character, from 0. -/
  column : Nat := 0
  /-- Whether the end of the text has been read. -/
  done : Bool := false
  /-- How many brackets are open; a closing bracket too many makes it negative. -/
  flowLevel : Int := 0
  /-- Tokens read and not yet handed out. -/
  queue : List Token := [.streamStart]
  /-- The number of tokens handed out. -/
  taken : Nat := 0
  /-- The indentation of the innermost block collection, -1 outside any. -/
  indent : Int := -1
  /-- The indentations around it, innermost first. -/
  indents : List Int := []
  /-- Whether a key may start at the next token. -/
  allowKey : Bool := true
  /-- The open key spots, by flow level. -/
  spots : List (Int × KeySpot) := []
deriving Inhabited

/-- A step of reading tokens. -/
abbrev LexM := StateT Lexer (Except Refusal)

/-- Whether a character ends a line. -/
def isBreak (c : Char) : Bool :=
  c = '\r' || c = '\n' || c = '\x85' || c = '\u2028' || c = '\u2029'

/-- Whether a character ends a line or the text. -/
def isBreakOrEnd (c : Char) : Bool := c = '\x00' || isBreak c

/-- Whether a character is a space, a break or the end. -/
def isSpaceOrEnd (c : Char) : Bool := c = ' ' || isBreakOrEnd c

/-- Whether a character is a space, a tab, a break or the end. -/
def isBlankOrEnd (c : Char) : Bool := c = '\t' || isSpaceOrEnd c

/-- Whether a character may stand in a name of an anchor, alias, directive or tag
handle: an ASCII letter or digit, `-` or `_`. -/
def isNameChar (c : Char) : Bool :=
  ('0' ≤ c && c ≤ '9') || ('A' ≤ c && c ≤ 'Z') || ('a' ≤ c && c ≤ 'z') || c = '-' || c = '_'

/-- Whether a character is an ASCII hexadecimal digit. -/
def isHexChar (c : Char) : Bool :=
  ('0' ≤ c && c ≤ '9') || ('A' ≤ c && c ≤ 'F') || ('a' ≤ c && c ≤ 'f')

/-- Whether a character may stand in a tag's URI as it is. -/
def isUriChar (c : Char) : Bool :=
  ('0' ≤ c && c ≤ '9') || ('A' ≤ c && c ≤ 'Z') || ('a' ≤ c && c ≤ 'z') ||
    "-;/?:@&=+$,_.!~*'()[]%".toList.contains c

/-- The value of an ASCII hexadecimal digit. -/
def hexDigitValue (c : Char) : Nat :=
  if '0' ≤ c && c ≤ '9' then c.toNat - 48
  else if 'a' ≤ c && c ≤ 'f' then c.toNat - 87
  else c.toNat - 55

/-- The value of hexadecimal digits. -/
def hexValue (cs : List Char) : Nat := cs.foldl (fun acc c => acc * 16 + hexDigitValue c) 0

/-- The value of ASCII decimal digits. -/
def decimalValue (cs : List Char) : Nat := cs.foldl (fun acc c => acc * 10 + (c.toNat - 48)) 0

namespace Lexer

/-- A lexer at the start of a text. -/
def ofText (text : String) : Lexer := { text := text.toList.toArray }

/-- The character `k` places ahead, `\0` past the end. -/
def charAt (l : Lexer) (k : Nat) : Char := l.text.getD (l.index + k) '\x00'

/-- Whether the lexer is inside brackets. -/
def inFlow (l : Lexer) : Bool := l.flowLevel != 0

/-- One character further: a break starts a new line, a byte-order mark takes no
column. -/
def step (l : Lexer) : Lexer :=
  let c := l.charAt 0
  let l := { l with index := l.index + 1 }
  if c = '\n' || c = '\x85' || c = '\u2028' || c = '\u2029' || (c = '\r' && l.charAt 0 != '\n') then
    { l with line := l.line + 1, column := 0 }
  else if c ≠ '\uFEFF' then { l with column := l.column + 1 }
  else l

end Lexer

namespace LexM

/-- The character `k` places ahead. -/
def peek (k : Nat := 0) : LexM Char := return (← get).charAt k

/-- The next `n` characters. -/
def ahead (n : Nat) : LexM (List Char) := do
  let l ← get
  return (List.range n).map l.charAt

/-- Moves `n` characters further. -/
def forward (n : Nat := 1) : LexM Unit := modify fun l => n.repeat Lexer.step l

/-- Takes the next `n` characters. -/
def take (n : Nat) : LexM (List Char) := do
  let cs ← ahead n
  forward n
  return cs

/-- One more than the characters left: a bound on the turns of any loop that reads
a character per turn. -/
def budget : LexM Nat := do
  let l ← get
  return l.text.size - l.index + 2

/-- Stops with a scanning fault. -/
def scanFault {α : Type} : LexM α := throw (.malformedYaml .scanning)

/-- The number of characters ahead, from `k` on, that pass `p`. -/
def runLength (p : Char → Bool) (k : Nat := 0) : LexM Nat := do
  let mut n := k
  for _ in [0:← budget] do
    if p (← peek n) then n := n + 1 else break
  return n - k

/-- Passes over the spaces ahead. -/
def skipSpaces : LexM Unit := do
  let n ← runLength (· = ' ')
  forward n

/-- Passes over the rest of the line, up to its break. -/
def skipToBreak : LexM Unit := do
  let n ← runLength fun c => !isBreakOrEnd c
  forward n

/-- Reads a line break, if one is next: a carriage return with a line feed, a
carriage return, a line feed and U+0085 read as a line feed; U+2028 and U+2029
as themselves. -/
def lineBreak : LexM (Option Char) := do
  let c ← peek
  if c = '\r' || c = '\n' || c = '\x85' then
    if (← ahead 2) = ['\r', '\n'] then forward 2 else forward 1
    return some '\n'
  else if c = '\u2028' || c = '\u2029' then
    forward 1
    return some c
  else return none

/-- Whether a document marker, `---` or `...` before a blank, is next. -/
def atDocumentMarker : LexM Bool := do
  let cs ← ahead 3
  return (cs = ['-', '-', '-'] || cs = ['.', '.', '.']) && isBlankOrEnd (← peek 3)

/-- Appends a token to the queue. -/
def emit (t : Token) : LexM Unit := modify fun l => { l with queue := l.queue ++ [t] }

/-! ## Indentation and key spots -/

/-- Drops the key spots that the lexer has moved past: another line, or more than
1024 characters on.  A dropped spot that had to become a key is a fault. -/
def dropStaleSpots : LexM Unit := do
  let l ← get
  let stale (s : KeySpot) : Bool := s.line != l.line || l.index - s.index > 1024
  if l.spots.any fun (_, s) => stale s && s.required then scanFault
  set { l with spots := l.spots.filter fun (_, s) => !stale s }

/-- Drops the key spot of the current flow level; one that had to become a key is a
fault. -/
def dropSpot : LexM Unit := do
  let l ← get
  match l.spots.lookup l.flowLevel with
  | some s =>
    if s.required then scanFault
    set { l with spots := l.spots.filter (fun (p : Int × KeySpot) => p.1 != l.flowLevel) }
  | none => pure ()

/-- Remembers that a key may start at the next token, when one may. -/
def saveSpot : LexM Unit := do
  let l ← get
  let required := !l.inFlow && l.indent == (l.column : Int)
  if l.allowKey then
    dropSpot
    let l ← get
    let spot : KeySpot :=
      { token := l.taken + l.queue.length, required, index := l.index, line := l.line,
        column := l.column }
    set { l with spots := l.spots.filter (fun (p : Int × KeySpot) => p.1 != l.flowLevel) ++ [(l.flowLevel, spot)] }

/-- Closes the block collections indented further than `column`. -/
def unwindIndent (column : Int) : LexM Unit := do
  if (← get).inFlow then return
  for _ in [0:(← get).indents.length + 1] do
    let l ← get
    match l.indents with
    | outer :: rest =>
      if l.indent > column then
        set { l with indent := outer, indents := rest, queue := l.queue ++ [Token.blockEnd] }
      else break
    | [] => break

/-- Opens an indentation at `column` when it is further right; says whether it did. -/
def addIndent (column : Int) : LexM Bool := do
  let l ← get
  if l.indent < column then
    set { l with indents := l.indent :: l.indents, indent := column }
    return true
  else return false

/-- Sets whether a key may start at the next token. -/
def allowKey (b : Bool) : LexM Unit := modify fun l => { l with allowKey := b }

/-! ## Directives -/

/-- A name of letters, digits, `-` and `_`, then a space, a break or the end. -/
def directiveName : LexM String := do
  let n ← runLength isNameChar
  if n = 0 then scanFault
  let name ← take n
  if !isSpaceOrEnd (← peek) || (← peek) = '\t' then scanFault
  return String.ofList name

/-- Digits of a version number. -/
def versionNumber : LexM Nat := do
  if !(← peek).isDigit then scanFault
  let n ← runLength Char.isDigit
  return decimalValue (← take n)

/-- A tag handle: `!`, `!!`, or `!` and a name and `!`. -/
def tagHandle : LexM String := do
  if (← peek) != '!' then scanFault
  let mut n := 1
  if (← peek 1) != ' ' then
    n := 1 + (← runLength isNameChar 1)
    if (← peek n) != '!' then
      forward n
      scanFault
    n := n + 1
  return String.ofList (← take n)

/-- Escaped bytes of a URI, `%` and two hexadecimal digits each, read as UTF-8. -/
def uriEscapes : LexM String := do
  let mut bytes : List UInt8 := []
  for _ in [0:← budget] do
    if (← peek) != '%' then break
    forward 1
    let ds ← ahead 2
    if !ds.all isHexChar then scanFault
    bytes := bytes ++ [(hexValue ds).toUInt8]
    forward 2
  match String.fromUTF8? (ByteArray.mk bytes.toArray) with
  | some s => return s
  | none => scanFault

/-- The URI of a tag or tag prefix; it may not be empty. -/
def tagUri : LexM String := do
  let mut chunks : String := ""
  let mut some := false
  for _ in [0:← budget] do
    let c ← peek
    if !isUriChar c then break
    if c = '%' then
      chunks := chunks ++ (← uriEscapes)
    else
      chunks := chunks.push c
      forward 1
    some := true
  if !some then scanFault
  return chunks

/-- A directive line after its `%`: `YAML` with a version, `TAG` with a handle and a
prefix, or another name whose line is passed over; then an optional comment and
the break. -/
def directive : LexM Token := do
  forward 1
  let name ← directiveName
  let d ←
    if name = "YAML" then do
      skipSpaces
      let major ← versionNumber
      if (← peek) != '.' then scanFault
      forward 1
      let minor ← versionNumber
      if !isSpaceOrEnd (← peek) || (← peek) = '\t' then scanFault
      pure (Directive.version major minor)
    else if name = "TAG" then do
      skipSpaces
      let handle ← tagHandle
      if (← peek) != ' ' then scanFault
      skipSpaces
      let pre ← tagUri
      if !isSpaceOrEnd (← peek) || (← peek) = '\t' then scanFault
      pure (Directive.tagPrefix handle pre)
    else do
      skipToBreak
      pure (Directive.other name)
  skipSpaces
  if (← peek) = '#' then skipToBreak
  if !isBreakOrEnd (← peek) then scanFault
  let _ ← lineBreak
  return .directive d

/-! ## Anchors, aliases and tags -/

/-- The name after `&` or `*`, which must end before a blank or an indicator. -/
def anchorName : LexM String := do
  forward 1
  let n ← runLength isNameChar
  if n = 0 then scanFault
  let name ← take n
  let c ← peek
  if !(isBlankOrEnd c || "?:,]\x7d%@`".toList.contains c) then scanFault
  return String.ofList name

/-- A tag: `!<uri>`, a lone `!`, `!handle!suffix` or `!suffix`; a space, a break or the
end must follow. -/
def tag : LexM Token := do
  let c ← peek 1
  let t ←
    if c = '<' then do
      forward 2
      let suffix ← tagUri
      if (← peek) != '>' then scanFault
      forward 1
      pure (Token.tag none suffix)
    else if isBlankOrEnd c then do
      forward 1
      pure (Token.tag none "!")
    else do
      let n ← runLength (fun c => !(isSpaceOrEnd c || c = '!')) 1
      let handle ←
        if (← peek (n + 1)) = '!' then tagHandle
        else do forward 1; pure "!"
      let suffix ← tagUri
      pure (Token.tag (some handle) suffix)
  if !isSpaceOrEnd (← peek) || (← peek) = '\t' then scanFault
  return t

/-! ## Block scalars -/

/-- The indicators after `|` or `>`: chomping (`+` keeps the final breaks, `-` drops
them) and an indentation digit from 1 to 9, in either order. -/
def blockIndicators : LexM (Option Bool × Option Nat) := do
  let mut chomp : Option Bool := none
  let mut step : Option Nat := none
  let c ← peek
  if c = '+' || c = '-' then
    chomp := some (c = '+')
    forward 1
    let d ← peek
    if '0' ≤ d && d ≤ '9' then
      if d = '0' then scanFault
      step := some (d.toNat - 48)
      forward 1
  else if '0' ≤ c && c ≤ '9' then
    if c = '0' then scanFault
    step := some (c.toNat - 48)
    forward 1
    let d ← peek
    if d = '+' || d = '-' then
      chomp := some (d = '+')
      forward 1
  if !isSpaceOrEnd (← peek) || (← peek) = '\t' then scanFault
  return (chomp, step)

/-- The breaks and spaces before the first line of a block scalar's text: the breaks,
and the deepest column the spaces reach. -/
def blockLeadingBreaks : LexM (List Char × Nat) := do
  let mut breaks : List Char := []
  let mut deepest := 0
  for _ in [0:← budget] do
    let c ← peek
    if c = ' ' then
      forward 1
      deepest := max deepest (← get).column
    else if isBreak c then
      if let some b ← lineBreak then breaks := breaks ++ [b]
    else break
  return (breaks, deepest)

/-- The breaks between lines of a block scalar, each with spaces up to `indent`. -/
def blockBreaks (indent : Nat) : LexM (List Char) := do
  let skip : LexM Unit := do
    for _ in [0:← budget] do
      if (← get).column < indent && (← peek) = ' ' then forward 1 else break
  skip
  let mut breaks : List Char := []
  for _ in [0:← budget] do
    if !isBreak (← peek) then break
    if let some b ← lineBreak then breaks := breaks ++ [b]
    skip
  return breaks

/-- A literal or folded block scalar.  Its lines are those at its indentation: the
digit's when given, else the deepest of the blank lines before the first line of
text or that line's own, and never less than one more than the indentation
around it.  A folded scalar joins two lines of text that do not start with a
blank by a space, when no empty line stands between them. -/
def blockScalar (folded : Bool) : LexM Token := do
  forward 1
  let (chomp, step) ← blockIndicators
  skipSpaces
  if (← peek) = '#' then skipToBreak
  if !isBreakOrEnd (← peek) then scanFault
  let _ ← lineBreak
  let least : Nat := max 1 ((← get).indent + 1).toNat
  let (breaks₀, indent) ← match step with
    | none => do
      let (bs, deepest) ← blockLeadingBreaks
      pure (bs, max least deepest)
    | some k => do
      let indent := least + k - 1
      pure (← blockBreaks indent, indent)
  let mut chunks : List Char := []
  let mut breaks := breaks₀
  let mut lastBreak : List Char := []
  for _ in [0:← budget] do
    if !((← get).column = indent && (← peek) != '\x00') then break
    chunks := chunks ++ breaks
    let leadingNonBlank := (← peek) != ' ' && (← peek) != '\t'
    let n ← runLength fun c => !isBreakOrEnd c
    chunks := chunks ++ (← take n)
    lastBreak := ((← lineBreak).map fun b => [b]).getD []
    breaks ← blockBreaks indent
    if (← get).column = indent && (← peek) != '\x00' then
      if folded && lastBreak = ['\n'] && leadingNonBlank && (← peek) != ' ' && (← peek) != '\t' then
        if breaks.isEmpty then chunks := chunks ++ [' ']
      else chunks := chunks ++ lastBreak
    else break
  if chomp != some false then chunks := chunks ++ lastBreak
  if chomp = some true then chunks := chunks ++ breaks
  return .scalar (GlyphText.ofString (String.ofList chunks)) (if folded then .folded else .literal)

/-! ## Quoted scalars -/

/-- The character an escape letter of a double-quoted scalar stands for. -/
def escapeChar? (c : Char) : Option Char :=
  match c with
  | '0' => some '\x00' | 'a' => some '\x07' | 'b' => some '\x08' | 't' => some '\t'
  | '\t' => some '\t' | 'n' => some '\n' | 'v' => some '\x0b' | 'f' => some '\x0c'
  | 'r' => some '\r' | 'e' => some '\x1b' | ' ' => some ' ' | '"' => some '"'
  | '\\' => some '\\' | '/' => some '/' | 'N' => some '\x85' | '_' => some '\xa0'
  | 'L' => some '\u2028' | 'P' => some '\u2029'
  | _ => none

/-- The number of hexadecimal digits after an escape letter that takes them. -/
def escapeWidth? (c : Char) : Option Nat :=
  match c with
  | 'x' => some 2 | 'u' => some 4 | 'U' => some 8
  | _ => none

/-- The glyph of a code point; a code point past the last is a bad value. -/
def glyphOf (n : Nat) : LexM Glyph :=
  if 0xD800 ≤ n && n ≤ 0xDFFF then pure (.surrogate n)
  else if n < 0x110000 then pure (.scalar (Char.ofNat n))
  else throw (.badValue none)

/-- The breaks inside a quoted scalar, with the blanks after each; a document marker
at the start of a line is a fault. -/
def quotedBreaks : LexM GlyphText := do
  let mut out : GlyphText := []
  for _ in [0:← budget] do
    if ← atDocumentMarker then scanFault
    let n ← runLength fun c => c = ' ' || c = '\t'
    forward n
    if isBreak (← peek) then
      if let some b ← lineBreak then out := out ++ [.scalar b]
    else break
  return out

/-- The text of a quoted scalar up to its next blank or break: quotes doubled in a
single-quoted scalar, escapes in a double-quoted one. -/
def quotedRun (double : Bool) : LexM GlyphText := do
  let mut out : GlyphText := []
  for _ in [0:← budget] do
    let n ← runLength fun c => !(c = '\'' || c = '"' || c = '\\' || isBlankOrEnd c)
    out := out ++ GlyphText.ofString (String.ofList (← take n))
    let c ← peek
    if !double && c = '\'' && (← peek 1) = '\'' then
      out := out ++ [.scalar '\'']
      forward 2
    else if (double && c = '\'') || (!double && (c = '"' || c = '\\')) then
      out := out ++ [.scalar c]
      forward 1
    else if double && c = '\\' then
      forward 1
      let e ← peek
      match escapeChar? e, escapeWidth? e with
      | some r, _ =>
        out := out ++ [.scalar r]
        forward 1
      | none, some width =>
        forward 1
        let ds ← ahead width
        if !ds.all isHexChar then scanFault
        out := out ++ [← glyphOf (hexValue ds)]
        forward width
      | none, none =>
        if isBreak e then
          let _ ← lineBreak
          out := out ++ (← quotedBreaks)
        else scanFault
    else break
  return out

/-- The blanks inside a quoted scalar and the breaks after them: blanks before text
stay; one line feed folds to a space, and the breaks of the empty lines after it
stay in its place. -/
def quotedBlanks : LexM GlyphText := do
  let n ← runLength fun c => c = ' ' || c = '\t'
  let blanks ← take n
  let c ← peek
  if c = '\x00' then scanFault
  if isBreak c then
    let b ← lineBreak
    let breaks ← quotedBreaks
    let first : GlyphText :=
      if b != some '\n' then (b.map fun b => [Glyph.scalar b]).getD []
      else if breaks.isEmpty then [.scalar ' ']
      else []
    return first ++ breaks
  else return GlyphText.ofString (String.ofList blanks)

/-- A single- or double-quoted scalar. -/
def quotedScalar (double : Bool) : LexM Token := do
  let quote ← peek
  forward 1
  let mut out ← quotedRun double
  for _ in [0:← budget] do
    if (← peek) = quote then break
    out := out ++ (← quotedBlanks)
    out := out ++ (← quotedRun double)
  forward 1
  return .scalar out (if double then .doubleQuoted else .singleQuoted)

/-! ## Plain scalars -/

/-- The blanks after a run of a plain scalar: the spaces when the line goes on;
after a break, a space, or the breaks of the empty lines that follow; `none` when
a document marker follows a break. -/
def plainBlanks : LexM (Option (List Char)) := do
  let n ← runLength (· = ' ')
  let spaces ← take n
  if isBreak (← peek) then
    let b := ((← lineBreak).getD '\n')
    allowKey true
    if ← atDocumentMarker then return none
    let mut breaks : List Char := []
    for _ in [0:← budget] do
      let c ← peek
      if c = ' ' then forward 1
      else if isBreak c then
        if let some b ← lineBreak then breaks := breaks ++ [b]
        if ← atDocumentMarker then return none
      else break
    let first := if b != '\n' then [b] else if breaks.isEmpty then [' '] else []
    return some (first ++ breaks)
  else return some spaces

/-- A plain scalar: runs of text that stop at a blank, at `: ` (and in brackets at
`:` before a bracket or comma, and at a bracket or comma), joined over blanks
and lines; a comment, a line left of the indentation, or a document marker ends
it. -/
def plainScalar : LexM Token := do
  let indent := (← get).indent + 1
  let mut out : List Char := []
  let mut pending : List Char := []
  for _ in [0:← budget] do
    if (← peek) = '#' then break
    let flow := (← get).inFlow
    let mut n := 0
    for _ in [0:← budget] do
      let c ← peek n
      let after ← peek (n + 1)
      if isBlankOrEnd c || (c = ':' && (isBlankOrEnd after || (flow && ",[]\x7b\x7d".toList.contains after))) ||
          (flow && ",?[]\x7b\x7d".toList.contains c) then break
      n := n + 1
    if n = 0 then break
    allowKey false
    out := out ++ pending ++ (← take n)
    match ← plainBlanks with
    | none => break
    | some blanks =>
      pending := blanks
      if blanks.isEmpty || (← peek) = '#' || (!(← get).inFlow && ((← get).column : Int) < indent) then
        break
  return .scalar (GlyphText.ofString (String.ofList out)) .plain

/-! ## Choosing the next token -/

/-- Whether a plain scalar may start here: at a character that is no indicator, or at
`-`, and outside brackets `?` and `:`, before a character that is no blank. -/
def plainMayStart : LexM Bool := do
  let c ← peek
  let next ← peek 1
  let l ← get
  return !(isBlankOrEnd c || "-?:,[]\x7b\x7d#&*!|>'\"%@`".toList.contains c) ||
    (!isBlankOrEnd next && (c = '-' || (!l.inFlow && (c = '?' || c = ':'))))

/-- Passes over spaces, comments and breaks to the next token; a break outside
brackets lets a key start. -/
def skipToToken : LexM Unit := do
  if (← get).index = 0 && (← peek) = '\uFEFF' then forward 1
  for _ in [0:← budget] do
    skipSpaces
    if (← peek) = '#' then skipToBreak
    if (← lineBreak).isSome then
      if !(← get).inFlow then allowKey true
    else break

/-- A document marker at the start of a line. -/
def documentMarker (t : Token) : LexM Unit := do
  unwindIndent (-1)
  dropSpot
  allowKey false
  forward 3
  emit t

/-- An opening bracket. -/
def openFlow (t : Token) : LexM Unit := do
  saveSpot
  modify fun l => { l with flowLevel := l.flowLevel + 1 }
  allowKey true
  forward 1
  emit t

/-- A closing bracket. -/
def closeFlow (t : Token) : LexM Unit := do
  dropSpot
  modify fun l => { l with flowLevel := l.flowLevel - 1 }
  allowKey false
  forward 1
  emit t

/-- `-` of a block sequence entry; outside brackets it may open a sequence. -/
def blockEntry : LexM Unit := do
  let l ← get
  if !l.inFlow then
    if !l.allowKey then scanFault
    if ← addIndent l.column then emit .blockSequenceStart
  allowKey true
  dropSpot
  forward 1
  emit .blockEntry

/-- `?` of an explicit key; outside brackets it may open a mapping. -/
def explicitKey : LexM Unit := do
  let l ← get
  if !l.inFlow then
    if !l.allowKey then scanFault
    if ← addIndent l.column then emit .blockMappingStart
  allowKey !(← get).inFlow
  dropSpot
  forward 1
  emit .key

/-- `:` of a value.  When a key spot is open the key token goes in front of the
spot's token, with a mapping start outside brackets when the spot is further
right than the indentation. -/
def valueMark : LexM Unit := do
  let l ← get
  match l.spots.lookup l.flowLevel with
  | some spot =>
    let at_ := spot.token - l.taken
    set { l with spots := l.spots.filter (fun (p : Int × KeySpot) => p.1 != l.flowLevel),
                 queue := l.queue.insertIdx at_ .key }
    if !l.inFlow then
      if ← addIndent spot.column then
        modify fun l => { l with queue := l.queue.insertIdx at_ .blockMappingStart }
    allowKey false
  | none =>
    if !l.inFlow then
      if !l.allowKey then scanFault
      if ← addIndent l.column then emit .blockMappingStart
    allowKey !(← get).inFlow
    dropSpot
  forward 1
  emit .value

/-- Reads the next token or tokens. -/
def fetch : LexM Unit := do
  skipToToken
  dropStaleSpots
  unwindIndent (← get).column
  let c ← peek
  let l ← get
  let atLineStart := l.column = 0
  if c = '\x00' then
    unwindIndent (-1)
    dropSpot
    modify fun l => { l with allowKey := false, spots := [], done := true }
    emit .streamEnd
  else if c = '%' && atLineStart then
    unwindIndent (-1)
    dropSpot
    allowKey false
    emit (← directive)
  else if c = '-' && atLineStart && (← atDocumentMarker) then documentMarker .documentStart
  else if c = '.' && atLineStart && (← atDocumentMarker) then documentMarker .documentEnd
  else if c = '[' then openFlow .flowSequenceStart
  else if c = '{' then openFlow .flowMappingStart
  else if c = ']' then closeFlow .flowSequenceEnd
  else if c = '}' then closeFlow .flowMappingEnd
  else if c = ',' then
    allowKey true
    dropSpot
    forward 1
    emit .flowEntry
  else if c = '-' && isBlankOrEnd (← peek 1) then blockEntry
  else if c = '?' && (l.inFlow || isBlankOrEnd (← peek 1)) then explicitKey
  else if c = ':' && (l.inFlow || isBlankOrEnd (← peek 1)) then valueMark
  else if c = '*' || c = '&' then
    saveSpot
    allowKey false
    let name ← anchorName
    emit (if c = '*' then .alias name else .anchor name)
  else if c = '!' then
    saveSpot
    allowKey false
    emit (← tag)
  else if (c = '|' || c = '>') && !l.inFlow then
    allowKey true
    dropSpot
    emit (← blockScalar (c = '>'))
  else if c = '\'' || c = '"' then
    saveSpot
    allowKey false
    emit (← quotedScalar (c = '"'))
  else if ← plainMayStart then
    saveSpot
    allowKey false
    emit (← plainScalar)
  else scanFault

/-- Whether the lexer must read on before it hands out a token: nothing is queued,
or the first queued token may still get a key in front of it. -/
def needMore : LexM Bool := do
  if (← get).done then return false
  if (← get).queue.isEmpty then return true
  dropStaleSpots
  let l ← get
  return (l.spots.map (·.2.token)).min? == some l.taken

/-- Reads until a token may be handed out. -/
def fill : LexM Unit := do
  for _ in [0:← budget] do
    if ← needMore then fetch else break

end LexM

namespace Lexer

/-- The next token, read as far as needed, without taking it. -/
def peekToken : LexM (Option Token) := do
  LexM.fill
  return (← get).queue.head?

/-- Takes the next token. -/
def takeToken : LexM (Option Token) := do
  LexM.fill
  let l ← get
  match l.queue with
  | t :: rest =>
    set { l with queue := rest, taken := l.taken + 1 }
    return some t
  | [] => return none

end Lexer

end ScriptGate.Yaml
