import ScriptGate.Text.Regex.Syntax
import ScriptGate.Text.CharName
import ScriptGate.Text.Identifier
import ScriptGate.Text.NumberText

/-!
# Reading a pattern

Reads the terms of a pattern, given as its code points, the way a reader of
the usual regular expressions of scripting languages reads them.

The pattern is read as *tokens*: a backslash and the character after it, or
one character.  A backslash that ends the pattern is a fault as soon as the
reader reaches it.  The reader keeps one token ahead: `peek` sees it, `take`
takes it.

* A sequence runs to a bar, a closing parenthesis or the end; under the
  verbose flag it skips blanks and comments from `#` to the end of a line.
* An escape is a class (`\d`, `\s`, `\w` and their capitals), an anchor (`\A`,
  `\b`, `\B`, `\Z`), a control character, a code point in two, four or eight
  hexadecimal digits, a character by name (`\N{...}`), an octal code point, or
  a reference to a group by number.  An escaped ASCII letter with no meaning
  is a fault; any other escaped character is itself.
* A class runs to a closing bracket that is not its first member; its members
  are characters, ranges and escaped classes.  A class of one character is
  that character or its complement.
* `*`, `+`, `?` and `{m,n}` repeat the term before them, lazily with a `?`
  after them and possessively with a `+`.  A brace that does not make a count
  is a character.  An anchor or nothing cannot be repeated, and a repetition
  cannot be repeated again.
* A parenthesis opens a group: capturing, named (`(?P<name>...)`),
  non-capturing, atomic, a look ahead or behind, a comment, a condition on a
  group, or flags for the group or, at the very start, for the whole pattern.
  A reference by name (`(?P=name)`) is no group.

A reference must name a group that is closed, and inside a look behind one
that was closed before it.  A condition may name a group that comes later,
but it must exist by the end.
-/

namespace ScriptGate.Regex

/-- Why a pattern does not compile. -/
inductive Fault where
  /-- The pattern is not well formed. -/
  | malformed
  /-- A count of repetitions is too large. -/
  | tooLarge
  /-- The flags for ASCII and for Unicode are both on. -/
  | mixedFlags
deriving DecidableEq, Inhabited, Repr

/-- One more than the largest count a repetition may name. -/
def maxRepeat : Nat := 4294967295

/-- One more than the largest number a group may have. -/
def maxGroups : Nat := 1073741823

/-- A token of a pattern. -/
inductive Token where
  /-- One character. -/
  | char (c : Nat)
  /-- A backslash and the character after it. -/
  | escape (c : Nat)
  /-- The end of the pattern. -/
  | stop
deriving DecidableEq, Inhabited, Repr

namespace Token

/-- How many code points a token takes. -/
def width : Token → Nat
  | char _ => 1
  | escape _ => 2
  | stop => 0

/-- The code points of a token. -/
def text : Token → List Nat
  | char c => [c]
  | escape c => ['\\'.toNat, c]
  | stop => []

/-- Whether a token is the character `c`. -/
def is (t : Token) (c : Char) : Bool := t == .char c.toNat

end Token

/-- The token at index `i` of a pattern. -/
def tokenAt (pattern : Array Nat) (i : Nat) : Except Fault Token :=
  match pattern[i]? with
  | none => .ok .stop
  | some c =>
    if c = '\\'.toNat then
      match pattern[i + 1]? with
      | some d => .ok (.escape d)
      | none => .error .malformed
    else .ok (.char c)

/-- The state of reading a pattern. -/
structure Reader where
  /-- The pattern. -/
  pattern : Array Nat
  /-- Where the token ahead starts. -/
  pos : Nat := 0
  /-- The flags set for the whole pattern. -/
  flags : Flags := {}
  /-- The names of the groups and their numbers. -/
  names : List (List Nat × Nat) := []
  /-- The widths of the groups by number, once closed; the first entry stands for the
  whole pattern. -/
  widths : Array (Option (Nat × Nat)) := #[none]
  /-- Inside a look behind, the number of the first group opened inside it. -/
  behindFrom : Option Nat := none
  /-- The group numbers conditions name. -/
  conditions : List Nat := []
deriving Inhabited

/-- A step of reading a pattern. -/
abbrev ReadM := StateT Reader (Except Fault)

namespace ReadM

/-- Stops: the pattern is malformed. -/
def malformed {α : Type} : ReadM α := throw .malformed

/-- The token ahead. -/
def peek : ReadM Token := do
  let r ← get
  tokenAt r.pattern r.pos

/-- Moves past the token ahead; reaching a backslash that ends the pattern is a
fault. -/
def advance : ReadM Unit := do
  let r ← get
  let t ← tokenAt r.pattern r.pos
  let next := r.pos + t.width
  let _ ← tokenAt r.pattern next
  set { r with pos := next }

/-- Takes the token ahead. -/
def take : ReadM Token := do
  let t ← peek
  advance
  return t

/-- Takes the token ahead when it is the character `c`. -/
def accept (c : Char) : ReadM Bool := do
  if (← peek).is c then
    advance
    return true
  else return false

/-- A bound on the tokens still to read, for loops that take one a turn. -/
def bound : ReadM Nat := do
  let r ← get
  return r.pattern.size + 1 - r.pos

/-- Takes up to `n` characters that pass `ok`. -/
def takeWhileIn (n : Nat) (ok : Nat → Bool) : ReadM (List Nat) := do
  let mut out : List Nat := []
  for _ in [0:n] do
    match ← peek with
    | .char c =>
      if ok c then
        advance
        out := out ++ [c]
      else break
    | _ => break
  return out

/-- Takes the tokens up to the character `terminator`, and it; their code points, which
may not be none. -/
def takeUntil (terminator : Char) : ReadM (List Nat) := do
  let mut out : List Nat := []
  for _ in [0:← bound] do
    let t ← take
    match t with
    | .stop => malformed
    | .char c =>
      if c = terminator.toNat then
        if out.isEmpty then malformed
        return out
      out := out ++ [c]
    | .escape _ => out := out ++ t.text
  malformed

end ReadM

open ReadM

/-- Whether a code point is an octal digit. -/
def isOctal (c : Nat) : Bool := '0'.toNat ≤ c && c ≤ '7'.toNat

/-- The value of a hexadecimal digit. -/
def hexDigit? (c : Nat) : Option Nat :=
  if isDigit c then some (c - '0'.toNat)
  else if 'a'.toNat ≤ c && c ≤ 'f'.toNat then some (c - 'a'.toNat + 10)
  else if 'A'.toNat ≤ c && c ≤ 'F'.toNat then some (c - 'A'.toNat + 10)
  else none

/-- The value of digits in a base. -/
def digitsValue (base : Nat) (ds : List Nat) : Nat :=
  ds.foldl (fun acc d => acc * base + ((hexDigit? d).getD 0)) 0

/-- Whether a code point is a blank the verbose flag skips. -/
def isPatternBlank (c : Nat) : Bool :=
  c = ' '.toNat || (9 ≤ c && c ≤ 13)

/-- Whether a character is one that means something outside a class. -/
def isSpecial (c : Nat) : Bool := ".\\[\x7b()*+?^$|".toList.contains (Char.ofNat c)

/-- The code point of `n` hexadecimal digits. -/
def hexEscape (n : Nat) : ReadM Nat := do
  let ds ← takeWhileIn n fun c => (hexDigit? c).isSome
  if ds.length ≠ n then malformed
  return digitsValue 16 ds

/-- The code point a named character escape names, after its `N`. -/
def namedEscape : ReadM Nat := do
  if !(← accept '{') then malformed
  let name ← takeUntil '}'
  match CharName.lookup? (name.map Char.ofNat) with
  | some c => return c
  | none => malformed

/-- Whether group `g` is closed. -/
def isClosed (g : Nat) : ReadM Bool := do
  let r ← get
  return g < r.widths.size && (r.widths[g]?.join).isSome

/-- Checks that a look behind may refer to group `g`. -/
def checkBehind (g : Nat) : ReadM Unit := do
  if let some first := (← get).behindFrom then
    if !(← isClosed g) then malformed
    if g ≥ first then malformed

/-- What an escape inside a class stands for. -/
inductive ClassPart where
  /-- A code point. -/
  | char (c : Nat)
  /-- A class by property. -/
  | category (k : Category) (negated : Bool)
deriving Inhabited

/-- The class by property an escaped letter names. -/
def categoryOf? (c : Nat) : Option (Category × Bool) :=
  if c = 'd'.toNat then some (.digit, false)
  else if c = 'D'.toNat then some (.digit, true)
  else if c = 's'.toNat then some (.space, false)
  else if c = 'S'.toNat then some (.space, true)
  else if c = 'w'.toNat then some (.word, false)
  else if c = 'W'.toNat then some (.word, true)
  else none

/-- The control character an escaped letter names; `b` is a backspace. -/
def controlOf? (c : Nat) : Option Nat :=
  if c = 'a'.toNat then some 7
  else if c = 'b'.toNat then some 8
  else if c = 'f'.toNat then some 12
  else if c = 'n'.toNat then some 10
  else if c = 'r'.toNat then some 13
  else if c = 't'.toNat then some 9
  else if c = 'v'.toNat then some 11
  else if c = '\\'.toNat then some 92
  else none

/-- What an escape stands for inside a class; `c` follows the backslash. -/
def classEscape (c : Nat) : ReadM ClassPart := do
  if let some v := controlOf? c then return .char v
  if let some (k, negated) := categoryOf? c then return .category k negated
  if c = 'x'.toNat then return .char (← hexEscape 2)
  if c = 'u'.toNat then return .char (← hexEscape 4)
  if c = 'U'.toNat then
    let v ← hexEscape 8
    if v > 0x10FFFF then malformed
    return .char v
  if c = 'N'.toNat then return .char (← namedEscape)
  if isOctal c then
    let more ← takeWhileIn 2 isOctal
    let v := digitsValue 8 (c :: more)
    if v > 0o377 then malformed
    return .char v
  if isDigit c || isAsciiLetter c then malformed
  return .char c

/-- What an escape stands for outside a class; `c` follows the backslash. -/
def escapeTerm (c : Nat) : ReadM Term := do
  if c = 'A'.toNat then return .anchor .textStart
  if c = 'b'.toNat then return .anchor .edge
  if c = 'B'.toNat then return .anchor .inside
  if c = 'Z'.toNat then return .anchor .textEnd
  if let some (k, negated) := categoryOf? c then return .set false [.category k negated]
  if let some v := controlOf? c then return .char v
  if c = 'x'.toNat then return .char (← hexEscape 2)
  if c = 'u'.toNat then return .char (← hexEscape 4)
  if c = 'U'.toNat then
    let v ← hexEscape 8
    if v > 0x10FFFF then malformed
    return .char v
  if c = 'N'.toNat then return .char (← namedEscape)
  if c = '0'.toNat then
    let more ← takeWhileIn 2 isOctal
    return .char (digitsValue 8 more)
  if isDigit c then
    let mut digits := [c]
    if let .char d := ← peek then
      if isDigit d then
        advance
        digits := [c, d]
        if isOctal c && isOctal d then
          if let .char e := ← peek then
            if isOctal e then
              advance
              let v := digitsValue 8 [c, d, e]
              if v > 0o377 then malformed
              return .char v
    let g := digitsValue 10 digits
    if g < (← get).widths.size then
      if !(← isClosed g) then malformed
      checkBehind g
      return .backref g
    malformed
  if isAsciiLetter c then malformed
  return .char c

/-- The members of a class after its opening bracket and caret, up to and with its
closing bracket. -/
def classMembers : ReadM (List Member) := do
  let mut items : Array Member := #[]
  for _ in [0:← bound] do
    let this ← take
    let part : ClassPart ← match this with
      | .stop => malformed
      | .escape c => classEscape c
      | .char c => pure (.char c)
    if this.is ']' && !items.isEmpty then return items.toList
    if ← accept '-' then
      let that ← take
      match that with
      | .stop => malformed
      | .char 93 =>
        let first : Member := match part with
          | .char c => .char c
          | .category k negated => .category k negated
        return (items.push first |>.push (.char '-'.toNat)).toList
      | _ =>
        let other ← match that with
          | .escape c => classEscape c
          | _ => pure (.char ((that.text.head?).getD 0))
        match part, other with
        | .char lo, .char hi =>
          if hi < lo then malformed
          items := items.push (.range lo hi)
        | _, _ => malformed
    else
      items := items.push (match part with
        | .char c => .char c
        | .category k negated => .category k negated)
  malformed

/-- A class after its opening bracket. -/
def classTerm : ReadM Term := do
  let negated ← accept '^'
  let members := dedup (← classMembers)
  match members with
  | [.char c] => return if negated then .notChar c else .char c
  | _ => return .set negated members

/-- The flags after `(?` and their first letter `first`: `none` for flags of the whole
pattern, closed by `)`, else the flags turned on and off for a group, closed by `:`. -/
def groupFlags (first : Nat) : ReadM (Option (Flags × Flags)) := do
  let mut add : Flags := {}
  let mut del : Flags := {}
  let mut ch : Token := .char first
  if first ≠ '-'.toNat then
    for _ in [0:← bound] do
      let c := (ch.text.head?).getD 0
      let some flag := Flags.ofLetter? c | malformed
      if c = 'L'.toNat then malformed
      add := add.union flag
      if !flag.kind.isEmpty && add.kind != flag then malformed
      ch ← take
      if ch == .stop then malformed
      if ch.is ')' || ch.is '-' || ch.is ':' then break
      if ch matches .escape _ then malformed
      if (Flags.ofLetter? ((ch.text.head?).getD 0)).isNone then malformed
  if ch.is ')' then
    modify fun r => { r with flags := r.flags.union add }
    return none
  if add.template then malformed
  if ch.is '-' then
    ch ← take
    if ch == .stop then malformed
    if ch matches .escape _ then malformed
    if (Flags.ofLetter? ((ch.text.head?).getD 0)).isNone then malformed
    for _ in [0:← bound] do
      let some flag := Flags.ofLetter? ((ch.text.head?).getD 0) | malformed
      if !flag.kind.isEmpty then malformed
      del := del.union flag
      ch ← take
      if ch == .stop then malformed
      if ch.is ':' then break
      if ch matches .escape _ then malformed
      if (Flags.ofLetter? ((ch.text.head?).getD 0)).isNone then malformed
  if del.template then malformed
  if add.meets del then malformed
  return some (add, del)

/-- Opens a capturing group, named or not, and gives its number. -/
def openGroup (name : Option (List Nat)) : ReadM Nat := do
  let r ← get
  let g := r.widths.size
  if g + 1 > maxGroups then malformed
  match name with
  | some n =>
    if (r.names.lookup n).isSome then malformed
    set { r with widths := r.widths.push none, names := (n, g) :: r.names }
  | none => set { r with widths := r.widths.push none }
  return g

/-- Closes group `g` around its body, recording its width. -/
def closeGroup (g : Nat) (body : List Term) : ReadM Unit :=
  modify fun r =>
    { r with widths := r.widths.set! g (some (widthOf (fun i => (r.widths[i]?.join).getD (0, 0)) body)) }

/-- Checks that a group name is an identifier. -/
def checkName (name : List Nat) : ReadM Unit := do
  if !Identifier.isIdentifier name then malformed

/-- The group number a condition names by digits: an integer as a general reader of
integers takes it. -/
def conditionNumber (name : List Nat) : ReadM Nat := do
  if name.any (fun c => 0xD800 ≤ c && c ≤ 0xDFFF) then malformed
  match NumberText.integer? 10 (String.ofList (name.map Char.ofNat)) with
  | some v =>
    if v < 0 then malformed
    let g := v.toNat
    if g = 0 then malformed
    if g ≥ maxGroups then malformed
    modify fun r => { r with conditions := r.conditions ++ [g] }
    return g
  | none => malformed

/-- What opening a parenthesis gave. -/
inductive Opened where
  /-- A term. -/
  | term (t : Term)
  /-- Nothing: a comment. -/
  | nothing
  /-- Flags for the whole pattern. -/
  | flags
deriving Inhabited

mutual

/-- Alternatives separated by bars, up to a closing parenthesis or the end; `nested`
counts the groups around them. -/
def alternatives : Nat → Bool → Nat → ReadM (List Term)
  | 0, _, _ => malformed
  | fuel + 1, verbose, nested => do
    let mut verbose := verbose
    let mut items : Array (List Term) := #[]
    for _ in [0:← bound] do
      items := items.push (← sequence fuel verbose (nested + 1) (nested == 0 && items.isEmpty))
      if !(← accept '|') then break
      if nested == 0 then verbose := (← get).flags.verbose
    return joinAlternatives items.toList

/-- Terms one after another, up to a bar, a closing parenthesis or the end; `first`
when flags for the whole pattern may stand at its start. -/
def sequence : Nat → Bool → Nat → Bool → ReadM (List Term)
  | 0, _, _, _ => malformed
  | fuel + 1, verbose, nested, first => do
    let mut verbose := verbose
    let mut items : Array Term := #[]
    for _ in [0:← bound] do
      let this ← peek
      if this == .stop || this.is '|' || this.is ')' then break
      advance
      if verbose then
        if let .char c := this then
          if isPatternBlank c then continue
        if this.is '#' then
          for _ in [0:← bound] do
            let t ← take
            if t == .stop || t.is '\n' then break
          continue
      match this with
      | .escape c => items := items.push (← escapeTerm c)
      | .stop => break
      | .char c =>
        if !isSpecial c then items := items.push (.char c)
        else if c = '['.toNat then items := items.push (← classTerm)
        else if c = '.'.toNat then items := items.push .any
        else if c = '^'.toNat then items := items.push (.anchor .caret)
        else if c = '$'.toNat then items := items.push (.anchor .dollar)
        else if c = '('.toNat then
          match ← group fuel verbose nested (first && items.isEmpty) with
          | .term t => items := items.push t
          | .nothing => pure ()
          | .flags => verbose := (← get).flags.verbose
        else
          -- a repetition: `*`, `+`, `?` or a count in braces
          let here := (← get).pos
          let mut least := 0
          let mut most : Option Nat := none
          if c = '?'.toNat then most := some 1
          else if c = '+'.toNat then least := 1
          else if c = '{'.toNat then
            if (← peek).is '}' then
              items := items.push (.char c)
              continue
            let lo ← takeWhileIn (← bound) isDigit
            let hi ← if ← accept ',' then takeWhileIn (← bound) isDigit else pure lo
            if !(← accept '}') then
              items := items.push (.char c)
              modify fun r => { r with pos := here }
              continue
            if !lo.isEmpty then
              least := digitsValue 10 lo
              if least ≥ maxRepeat then throw .tooLarge
            if !hi.isEmpty then
              let m := digitsValue 10 hi
              if m ≥ maxRepeat then throw .tooLarge
              if m < least then malformed
              most := some m
          let body ← match items.back? with
            | none | some (.anchor _) => malformed
            | some (.repeat ..) => malformed
            | some (.group none add del inner) =>
              pure (if add.isEmpty && del.isEmpty then inner else [.group none add del inner])
            | some t => pure [t]
          let greed ← do
            if ← accept '?' then pure Greed.lazy
            else if ← accept '+' then pure Greed.possessive
            else pure Greed.greedy
          items := items.pop.push (.repeat greed least most body)
    return splice items.toList

/-- What follows an opening parenthesis, up to and with its closing one; `atStart`
when nothing stands before it where flags for the whole pattern may stand. -/
def group : Nat → Bool → Nat → Bool → ReadM Opened
  | 0, _, _, _ => malformed
  | fuel + 1, verbose, nested, atStart => do
    let mut capture := true
    let mut atomic := false
    let mut name : Option (List Nat) := none
    let mut add : Flags := {}
    let mut del : Flags := {}
    if ← accept '?' then
      let ch ← take
      match ch with
      | .stop => malformed
      | .escape _ => malformed
      | .char c =>
        if c = 'P'.toNat then
          if ← accept '<' then
            let n ← takeUntil '>'
            checkName n
            name := some n
          else if ← accept '=' then
            let n ← takeUntil ')'
            checkName n
            let some g := (← get).names.lookup n | malformed
            if !(← isClosed g) then malformed
            checkBehind g
            return .term (.backref g)
          else
            let _ ← take
            malformed
        else if c = ':'.toNat then capture := false
        else if c = '#'.toNat then
          for _ in [0:← bound] do
            if (← peek) == .stop then malformed
            if (← take).is ')' then break
          return .nothing
        else if c = '='.toNat || c = '!'.toNat || c = '<'.toNat then
          let mut negated : Bool := c = '!'.toNat
          let behind : Bool := c = '<'.toNat
          let outer := (← get).behindFrom
          if behind then
            let kind ← take
            if kind.is '=' then negated := false
            else if kind.is '!' then negated := true
            else malformed
            if outer.isNone then
              modify fun r => { r with behindFrom := some r.widths.size }
          let body ← alternatives fuel verbose (nested + 1)
          if behind && outer.isNone then
            modify fun r => { r with behindFrom := none }
          if !(← accept ')') then malformed
          return .term (.look behind negated body)
        else if c = '('.toNat then
          let condition ← takeUntil ')'
          let g ← if Identifier.isIdentifier condition then
              match (← get).names.lookup condition with
              | some g => pure g
              | none => malformed
            else conditionNumber condition
          checkBehind g
          let yes ← sequence fuel verbose (nested + 1) false
          let no ← if ← accept '|' then do
              let n ← sequence fuel verbose (nested + 1) false
              if (← peek).is '|' then malformed
              pure (some n)
            else pure none
          if !(← accept ')') then malformed
          return .term (.ifGroup g yes no)
        else if c = '>'.toNat then
          capture := false
          atomic := true
        else if (Flags.ofLetter? c).isSome || c = '-'.toNat then
          match ← groupFlags c with
          | none =>
            if !atStart then malformed
            return .flags
          | some (a, d) =>
            add := a
            del := d
            capture := false
        else malformed
    let index ← if capture then some <$> openGroup name else pure none
    let inner := (verbose || add.verbose) && !del.verbose
    let body ← alternatives fuel inner (nested + 1)
    if !(← accept ')') then malformed
    if let some g := index then closeGroup g body
    if atomic then return .term (.atomic body)
    return .term (.group index add del body)

end

/-- The terms of a pattern and the state the reader ends in: the flags of the whole
pattern, the widths of the groups. -/
def readPattern (pattern : Array Nat) : Except Fault (List Term × Reader) := do
  let _ ← tokenAt pattern 0
  let run : ReadM (List Term) := do
    let body ← alternatives (4 * pattern.size + 8) false 0
    let r ← get
    if !r.flags.ascii then set { r with flags := { r.flags with unicode := true } }
    else if r.flags.unicode then throw .mixedFlags
    if (← peek) != .stop then malformed
    let r ← get
    if r.conditions.any (· ≥ r.widths.size) then malformed
    return body
  run.run { pattern }

end ScriptGate.Regex
