/-!
# The syntax of regular expressions

What a pattern says, before it is compiled: the terms of the expression as the
reader finds them, with the flags that change how they read and match.

* A `Term` is one part of a sequence: a character or its complement, any
  character, a class of characters, an anchor, a choice between sequences, a
  group, a repetition, a reference to a group, a choice on whether a group has
  matched, a look around, or an atomic group.
* A group has a number when it captures, and the flags it turns on and off.
  A group that neither captures nor changes a flag is spliced into the
  sequence around it.
* The width of a sequence is the least and the most characters it can match,
  both at most `maxWidth`; a reference to a group is as wide as the group.

Alternatives are gathered as the reader gathers them: the first terms all
alternatives share move in front of the choice, and a choice between single
characters and plain classes is one class.
-/

namespace ScriptGate.Regex

/-- Whether a code point is an ASCII digit. -/
def isDigit (c : Nat) : Bool := '0'.toNat ≤ c && c ≤ '9'.toNat

/-- Whether a code point is an ASCII letter. -/
def isAsciiLetter (c : Nat) : Bool :=
  ('a'.toNat ≤ c && c ≤ 'z'.toNat) || ('A'.toNat ≤ c && c ≤ 'Z'.toNat)

/-- The flags of a pattern. -/
structure Flags where
  /-- Letters match either case (`i`). -/
  ignoreCase : Bool := false
  /-- Classes follow the locale (`L`); a text pattern refuses it. -/
  locale : Bool := false
  /-- `^` and `$` hold at every line (`m`). -/
  multiline : Bool := false
  /-- `.` matches a newline too (`s`). -/
  dotAll : Bool := false
  /-- Blanks and comments in the pattern are skipped (`x`). -/
  verbose : Bool := false
  /-- Classes and case are those of ASCII (`a`). -/
  ascii : Bool := false
  /-- Classes and case are those of Unicode (`u`). -/
  unicode : Bool := false
  /-- The pattern is a template, which may not repeat (`t`). -/
  template : Bool := false
deriving DecidableEq, Inhabited, Repr

namespace Flags

/-- The flags on in either. -/
def union (a b : Flags) : Flags :=
  ⟨a.ignoreCase || b.ignoreCase, a.locale || b.locale, a.multiline || b.multiline,
    a.dotAll || b.dotAll, a.verbose || b.verbose, a.ascii || b.ascii, a.unicode || b.unicode,
    a.template || b.template⟩

/-- The flags on in `a` and not in `b`. -/
def minus (a b : Flags) : Flags :=
  ⟨a.ignoreCase && !b.ignoreCase, a.locale && !b.locale, a.multiline && !b.multiline,
    a.dotAll && !b.dotAll, a.verbose && !b.verbose, a.ascii && !b.ascii,
    a.unicode && !b.unicode, a.template && !b.template⟩

/-- Whether no flag is on. -/
def isEmpty (a : Flags) : Bool := a == {}

/-- Whether two sets of flags share one. -/
def meets (a b : Flags) : Bool := !(a.minus (a.minus b)).isEmpty

/-- The flags that say whose classes and case hold: ASCII, Unicode or the locale. -/
def kind (a : Flags) : Flags := { ascii := a.ascii, unicode := a.unicode, locale := a.locale }

/-- The flags inside a group that turns `add` on and `del` off: a group that names
whose classes hold drops the outer choice. -/
def within (f add del : Flags) : Flags :=
  let base := if add.kind.isEmpty then f else f.minus f.kind
  (base.union add).minus del

/-- The flag a letter names. -/
def ofLetter? (c : Nat) : Option Flags :=
  if c = 'i'.toNat then some { ignoreCase := true }
  else if c = 'L'.toNat then some { locale := true }
  else if c = 'm'.toNat then some { multiline := true }
  else if c = 's'.toNat then some { dotAll := true }
  else if c = 'x'.toNat then some { verbose := true }
  else if c = 'a'.toNat then some { ascii := true }
  else if c = 't'.toNat then some { template := true }
  else if c = 'u'.toNat then some { unicode := true }
  else none

end Flags

/-- A place a pattern asks about. -/
inductive Anchor where
  /-- `^`: the start of the text, or of a line under `m`. -/
  | caret
  /-- `$`: the end of the text or before a newline that ends it, or the end of a
  line under `m`. -/
  | dollar
  /-- `\A`: the start of the text. -/
  | textStart
  /-- `\Z`: the end of the text. -/
  | textEnd
  /-- `\b`: the edge of a word. -/
  | edge
  /-- `\B`: a place that is no edge of a word. -/
  | inside
deriving DecidableEq, Inhabited, Repr

/-- A class of characters by property. -/
inductive Category where
  /-- Decimal digits, `\d`. -/
  | digit
  /-- Blanks, `\s`. -/
  | space
  /-- Characters of words, `\w`. -/
  | word
deriving DecidableEq, Inhabited, Repr

/-- A member of a bracketed class. -/
inductive Member where
  /-- One code point. -/
  | char (c : Nat)
  /-- The code points from `lo` to `hi`. -/
  | range (lo hi : Nat)
  /-- A class by property, or its complement. -/
  | category (k : Category) (negated : Bool)
deriving DecidableEq, Inhabited, Repr

/-- How a repetition chooses its count. -/
inductive Greed where
  /-- As many as the rest allows, trying fewer on failure. -/
  | greedy
  /-- As few as the rest allows, trying more on failure. -/
  | lazy
  /-- As many as it can, never giving one back. -/
  | possessive
deriving DecidableEq, Inhabited, Repr

/-- A term of a pattern. -/
inductive Term where
  /-- One code point. -/
  | char (c : Nat)
  /-- Any character but one code point. -/
  | notChar (c : Nat)
  /-- Any character but a newline, or any under `s`. -/
  | any
  /-- A class, or its complement. -/
  | set (negated : Bool) (members : List Member)
  /-- An anchor. -/
  | anchor (a : Anchor)
  /-- A choice between sequences, tried in order. -/
  | branch (alternatives : List (List Term))
  /-- A group: its number when it captures, the flags it turns on and off. -/
  | group (index : Option Nat) (add del : Flags) (body : List Term)
  /-- A repetition at least `least` times and at most `most`, when bounded. -/
  | repeat (greed : Greed) (least : Nat) (most : Option Nat) (body : List Term)
  /-- The text a group matched, again. -/
  | backref (index : Nat)
  /-- `yes` when a group has matched, else `no`. -/
  | ifGroup (index : Nat) (yes : List Term) (no : Option (List Term))
  /-- A look ahead or behind, that must match or must not. -/
  | look (behind negated : Bool) (body : List Term)
  /-- A group that keeps its first match. -/
  | atomic (body : List Term)
deriving Inhabited, Repr

/-- The widest a sequence is counted: wider is as wide. -/
def maxWidth : Nat := Nat.pow 2 64

/-- A width no wider than `maxWidth`. -/
def capWidth (w : Nat × Nat) : Nat × Nat := (min w.1 maxWidth, min w.2 maxWidth)

mutual

/-- The least and most characters a term matches; `groupWidth` gives the widths of
the groups. -/
def Term.width (groupWidth : Nat → Nat × Nat) : Term → Nat × Nat
  | .char _ | .notChar _ | .any | .set .. => (1, 1)
  | .anchor _ | .look .. => (0, 0)
  | .branch alternatives => choiceWidth groupWidth alternatives
  | .group _ _ _ body | .atomic body => widthOf groupWidth body
  | .repeat _ least most body =>
    let (i, j) := widthOf groupWidth body
    (i * least, match most with
      | some m => j * m
      | none => if j = 0 then 0 else maxWidth)
  | .backref index => groupWidth index
  | .ifGroup _ yes no =>
    let (i, j) := widthOf groupWidth yes
    match no with
    | some n =>
      let (l, h) := widthOf groupWidth n
      (min i l, max j h)
    | none => (0, j)

/-- The widths of the terms of a sequence, summed. -/
def sumWidths (groupWidth : Nat → Nat × Nat) : List Term → Nat × Nat
  | [] => (0, 0)
  | t :: ts =>
    let (a, b) := t.width groupWidth
    let (c, d) := sumWidths groupWidth ts
    (a + c, b + d)

/-- The width of a sequence. -/
def widthOf (groupWidth : Nat → Nat × Nat) (ts : List Term) : Nat × Nat :=
  capWidth (sumWidths groupWidth ts)

/-- The width of a choice: the least of the least widths, the most of the most. -/
def choiceWidth (groupWidth : Nat → Nat × Nat) : List (List Term) → Nat × Nat
  | [] => (maxWidth, 0)
  | a :: rest =>
    let (l, h) := widthOf groupWidth a
    let (i, j) := choiceWidth groupWidth rest
    (min l i, max h j)

end

namespace Term

/-- Whether two terms are the same one-character term or anchor, as the reader
compares the first terms of alternatives; other terms are never the same. -/
def sameUnit : Term → Term → Bool
  | .char a, .char b | .notChar a, .notChar b | .backref a, .backref b => a == b
  | .any, .any => true
  | .set n m, .set n' m' => n == n' && m == m'
  | .anchor a, .anchor b => a == b
  | _, _ => false

end Term

/-- The first terms all alternatives share, moved in front, and the alternatives
after them; `fuel` bounds the moves. -/
def shareFront : Nat → List (List Term) → List Term × List (List Term)
  | 0, items => ([], items)
  | fuel + 1, items =>
    match items with
    | (t :: _) :: _ =>
      if items.all fun item => match item with
          | u :: _ => u.sameUnit t
          | [] => false then
        let (front, rest) := shareFront fuel (items.map List.tail)
        (t :: front, rest)
      else ([], items)
    | _ => ([], items)

/-- The members of one class that a choice between single characters and plain
classes amounts to, when it is one. -/
def asMembers : List (List Term) → Option (List Member)
  | [] => some []
  | [.char c] :: rest => (asMembers rest).map (.char c :: ·)
  | [.set false ms] :: rest => (asMembers rest).map (ms ++ ·)
  | _ => none

/-- A list without its repeated elements, the first of each kept in its place. -/
def dedup {α : Type} [BEq α] (l : List α) : List α :=
  l.foldl (fun acc a => if acc.contains a then acc else acc ++ [a]) []

/-- The terms of a choice between sequences: a single sequence is itself; else the
shared front, then one class or a branch. -/
def joinAlternatives (items : List (List Term)) : List Term :=
  match items with
  | [single] => single
  | _ =>
    let (front, rest) := shareFront (items.foldl (fun n i => n + i.length) 0) items
    match asMembers rest with
    | some ms => front ++ [.set false (dedup ms)]
    | none => front ++ [.branch rest]

/-- A sequence with its groups that neither capture nor change a flag spliced in. -/
def splice (ts : List Term) : List Term :=
  ts.flatMap fun t => match t with
    | .group none add del body => if add.isEmpty && del.isEmpty then body else [t]
    | t => [t]

end ScriptGate.Regex
