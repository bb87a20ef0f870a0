import ScriptGate.Syntax.Lexer
import ScriptGate.Syntax.Tree
import ScriptGate.Text.Utf8

/-!
# Reading tokens for the grammar

The grammar reads a text through a `Reader`: it asks for the next token under
an expectation, consumes it, and fails at the first token it cannot use.  A
failure records where that token starts and where the last token or comment
before it ends; the repairs of a recovery are placed there.

A reader runs under a `Repair`, which the first reading leaves empty:

* stretches of the text to skip, read as blanks;
* tokens the text lacks, each supplied just before the token at its anchor;
* token starts before which no semicolon is supplied: after a repair, the
  token that failed was read where no semicolon could be, and stays so;
* starts of words read as plain names: a keyword that failed where no keyword
  could stand was taken for a name, and stays one.  Such a word is spelled with
  a leading NUL, so that it matches no keyword; a reading that needs it is
  never given out as a tree.

Alternatives are tried in order; when all fail, the failure that got furthest
into the text stands for them (`Reader.orElse`).

Besides the tree, a reading records *faults*: nodes the tree has no shape for
(elements, decorators, `using` declarations), literals without a value, and
`return` outside a function.  They become errors once the text reads.
-/

namespace ScriptGate

/-- Stretches to skip and tokens to supply while reading a text. -/
structure Repair where
  /-- Stretches `[start, stop)` read as blanks, latest first; no two meet. -/
  skips : List (Nat × Nat) := []
  /-- Tokens supplied before the token that starts at the anchor, in order of anchors. -/
  inserts : List (Nat × String) := []
  /-- Token starts before which no semicolon is supplied. -/
  quiet : List Nat := []
  /-- Ends of operands that may no longer be read as targets, parameters or labels. -/
  frozen : List Nat := []
  /-- Starts of words read as plain names, never as keywords. -/
  plain : List Nat := []
  /-- Ends of operands that a skipped stretch follows: they may end whole expressions. -/
  whole : List Nat := []
  /-- Starts of words read as keywords, never as names, where the grammar has them as
  keywords of its own. -/
  strict : List Nat := []
deriving Repr, Inhabited

namespace Repair

/-- Two lists without the longest head they share. -/
def dropShared {α : Type} [BEq α] : List α → List α → List α × List α
  | x :: xs, y :: ys => if x == y then dropShared xs ys else (x :: xs, y :: ys)
  | xs, ys => (xs, ys)

/-- The positions of the elements of two lists outside the longest head and the
longest tail they share: every element that one list has and the other lacks is
among them. -/
def changed {α : Type} [BEq α] (xs ys : List α) (pos : α → Nat) : List Nat :=
  let (a, b) := dropShared xs ys
  let (c, d) := dropShared a.reverse b.reverse
  (c ++ d).map pos

/-- A position no later than the first where two repairs differ: the least position
of a stretch, a supplied token or a mark outside what their lists share at the
head and the tail; `none` when they agree. -/
def firstChange (a b : Repair) : Option Nat :=
  (changed a.skips b.skips (·.1) ++ changed a.inserts b.inserts (·.1) ++
    changed a.quiet b.quiet id ++ changed a.frozen b.frozen id ++ changed a.plain b.plain id ++
    changed a.whole b.whole id ++ changed a.strict b.strict id).min?

end Repair

/-- Where reading stopped, and what the reading had seen up to there. -/
structure Failure where
  /-- Where the token that could not be read starts. -/
  spot : Nat
  /-- Where the last token or comment before it ends. -/
  prevEnd : Nat
  /-- The token that could not be read. -/
  token : Token := ⟨.eof, spot, spot⟩
  /-- The last tokens read, latest first. -/
  recent : List Token := []
  /-- Starts of the `return` statements read outside every function closed so far. -/
  openReturns : List Nat := []
  /-- Starts of the top-level `import` and `export` statements read. -/
  moduleItems : List Nat := []
  /-- When the text ends inside a list of statements or members, the token a
  recovery supplies there first: the closing brace of a block, a class body or
  a `switch` body, or a semicolon among the statements of a case. -/
  lacking : Option String := none
deriving Repr, Inhabited

/-- What a text holds that the tree cannot. -/
inductive Fault where
  /-- A node the tree has no shape for, by its grammar name. -/
  | unsupported (kind : String) (at_ : Nat)
  /-- A numeric literal without a value. -/
  | badNumber (raw : String) (at_ : Nat)
  /-- An escape for a code point beyond U+10FFFF, with the code it names. -/
  | badEscape (code at_ : Nat)
deriving Repr, Inhabited, DecidableEq

/-- Where a fault stands. -/
def Fault.spot : Fault → Nat
  | unsupported _ p | badNumber _ p | badEscape _ p => p

/-- The fixed facts of a reading. -/
structure Context where
  /-- The text and its skipped stretches. -/
  scanner : Scanner
  /-- Supplied tokens. -/
  inserts : Array (Nat × String)
  /-- Token starts before which no semicolon is supplied. -/
  quiet : List Nat
  /-- The text in UTF-8. -/
  bytes : Array UInt8
  /-- Whether every byte of the text is below `0x80`. -/
  ascii : Bool
  /-- Where each line starts in the bytes: `0`, and the offset after each line feed. -/
  byteStarts : Array Nat
  /-- The point the syntax tree reports at each character position. -/
  points : Array Point
  /-- Ends of operands that may no longer be read as targets, parameters or labels. -/
  frozen : List Nat := []
  /-- Whether the reader is inside a function body. -/
  inFunction : Bool := false
  /-- Starts of words read as plain names, never as keywords. -/
  plain : List Nat := []
  /-- Ends of operands that a skipped stretch follows: they may end whole expressions. -/
  whole : List Nat := []
  /-- Starts of words read as keywords, never as names, where the grammar has them as
  keywords of its own. -/
  strict : List Nat := []

/-- How far a reading has come. -/
structure Cursor where
  /-- Where the last token read stops. -/
  pos : Nat := 0
  /-- How many supplied tokens have been read. -/
  used : Nat := 0
  /-- Faults found, latest first. -/
  faults : List Fault := []
  /-- Starts of `return` statements outside functions, latest first. -/
  strayReturns : List Nat := []
  /-- Supplied tokens read, with where they stand and the name of what they stand for,
  latest first. -/
  supplied : List (Nat × String) := []
  /-- The last tokens of the text read, latest first, at most `recentLimit` of them. -/
  recent : List Token := []
  /-- Starts of `return` statements inside functions not yet closed, latest first. -/
  pendingReturns : List Nat := []
  /-- Starts of the top-level `import` and `export` statements read, latest first. -/
  moduleItems : List Nat := []

/-- How many of the last tokens read a cursor keeps. -/
def recentLimit : Nat := 24

/-- A reader of some part of the grammar. -/
abbrev Reader := ReaderT Context (StateT Cursor (Except Failure))

namespace Context

/-- The index of the line holding `i`: the last line start at or before it, searched in `[lo, hi)`. -/
def lineIndex (starts : Array Nat) (i : Nat) (lo hi : Nat) : Nat :=
  if h : lo + 1 < hi then
    let mid := (lo + hi) / 2
    if starts[mid]?.getD 0 ≤ i then lineIndex starts i mid hi else lineIndex starts i lo mid
  else lo
termination_by hi - lo

/-- The characters before a point on its row: its row's bytes before it, decoded. -/
def decodedColumn (ctx : Context) (row byteColumn : Nat) : Nat :=
  let start := ctx.byteStarts[row]?.getD 0
  Utf8.decodedLength .idle (ctx.bytes.extract start (start + byteColumn)).toList

/-- The line and column of a point: its row counted from one, and the characters before
it on its row.  A text of ASCII has a byte to a character and keeps the byte column. -/
def position (ctx : Context) (row byteColumn : Nat) : Nat × Nat :=
  if ctx.ascii || ctx.byteStarts.size ≤ row then (row + 1, byteColumn)
  else (row + 1, ctx.decodedColumn row byteColumn)

/-- The line and column of a byte offset, its row the last line start at or before it. -/
def positionOfByte (ctx : Context) (o : Nat) : Nat × Nat :=
  let row := lineIndex ctx.byteStarts o 0 ctx.byteStarts.size
  ctx.position row (o - ctx.byteStarts[row]?.getD 0)

/-- The point the syntax tree reports at a character position. -/
def point (ctx : Context) (i : Nat) : Point := ctx.points[i]?.getD default

/-- The place of a character position, from the point reported there. -/
def place (ctx : Context) (i : Nat) : Place :=
  let p := ctx.point i
  ⟨i, (ctx.position p.row p.column).1, (ctx.position p.row p.column).2⟩

/-- The place of a character position, from its byte offset. -/
def bytePlace (ctx : Context) (i : Nat) : Place :=
  ⟨i, (ctx.positionOfByte (ctx.point i).offset).1, (ctx.positionOfByte (ctx.point i).offset).2⟩

/-- The span between two character positions. -/
def span (ctx : Context) (a b : Nat) : Span := ⟨ctx.place a, ctx.place b⟩

/-- The span between two character positions, placed from their byte offsets. -/
def byteSpan (ctx : Context) (a b : Nat) : Span := ⟨ctx.bytePlace a, ctx.bytePlace b⟩

/-- Where the lines of UTF-8 bytes start. -/
def starts (bytes : Array UInt8) : Array Nat :=
  (bytes.foldl (fun (acc, i) b => (if b = 10 then acc.push (i + 1) else acc, i + 1))
    (#[0], 0)).1

/-- The points at the character positions of a text, from its start. -/
def pointsOf (text : Array Char) : Array Point := (text.toList.scanl Point.step default).toArray

/-- The fixed facts of reading `text` under a repair. -/
def make (text : Array Char) (r : Repair) : Context :=
  let bytes := (Utf8.encode text.toList).toArray
  { scanner := ⟨text, r.skips⟩, inserts := r.inserts.toArray, quiet := r.quiet,
    bytes := bytes, ascii := bytes.all (· < 0x80), byteStarts := starts bytes,
    points := pointsOf text, frozen := r.frozen, plain := r.plain, whole := r.whole,
    strict := r.strict }

end Context

namespace Reader

/-- Fails at a token, noting what a recovery supplies first if the text ends there. -/
def failLacking {α : Type} (t : Token) (g : Gap) (lacking : Option String) : Reader α := do
  let c ← get
  throw { spot := t.start, prevEnd := g.lastEnd, token := t, recent := c.recent,
          openReturns := c.pendingReturns ++ c.strayReturns, moduleItems := c.moduleItems,
          lacking := if t.kind == .eof then lacking else none }

/-- Fails at a token. -/
def failAt {α : Type} (t : Token) (g : Gap) : Reader α := failLacking t g none

/-- The gap and the token ahead, under an expectation. -/
def peekWith (mode : Expect) : Reader (Gap × Token) := do
  let ctx ← read
  let c ← get
  let g := ctx.scanner.gap mode c.pos
  match ctx.inserts[c.used]? with
  | some (anchor, sym) =>
    if anchor = g.next then return (g, ⟨.missing sym, g.lastEnd, g.lastEnd⟩)
    else return (g, ctx.scanner.tokenAt mode g.next)
  | none => return (g, ctx.scanner.tokenAt mode g.next)

/-- The token ahead, where an operand has ended. -/
def peek : Reader Token := return (← peekWith .operator).2

/-- The token ahead, where an operand may start. -/
def peekOperand : Reader Token := return (← peekWith .operand).2

/-- Consumes a token; a supplied one is recorded under `name`, or under its own symbol. -/
def bumpAs (t : Token) (name : Option String) : Reader Unit :=
  modify fun c =>
    match t.kind with
    | .missing sym =>
      { c with pos := t.stop, used := c.used + 1,
               supplied := (t.start, name.getD sym) :: c.supplied }
    | _ => { c with pos := t.stop, recent := (t :: c.recent).take recentLimit }

/-- Consumes a token. -/
def bump (t : Token) : Reader Unit := bumpAs t none

/-- The text of a token. -/
def textOf (t : Token) : Reader String := do
  let ctx ← read
  let text := ctx.scanner.slice t.start t.stop
  return if t.kind == .word && ctx.plain.contains t.start then "\x00" ++ text else text

/-- The place of a character position. -/
def placeAt (i : Nat) : Reader Place := return (← read).place i

/-- The span between two character positions. -/
def spanOf (a b : Nat) : Reader Span := return (← read).span a b

/-- The span between two character positions, placed from their byte offsets. -/
def byteSpanOf (a b : Nat) : Reader Span := return (← read).byteSpan a b

/-- Whether the token is the punctuation `p`, present or supplied. -/
def isSym (t : Token) (p : String) : Bool :=
  t.kind == .punct p || t.kind == .missing p

/-- Consumes the punctuation `p` or fails at the token ahead. -/
def expectWith (mode : Expect) (p : String) : Reader Token := do
  let (g, t) ← peekWith mode
  if isSym t p then bump t; return t else failAt t g

/-- Consumes the punctuation `p`, read where an operand has ended. -/
def expect (p : String) : Reader Token := expectWith .operator p

/-- Consumes the closing brace of a list of statements or members; at the end of
the text a recovery supplies that brace first. -/
def closeList (mode : Expect) : Reader Token := do
  let (g, t) ← peekWith mode
  if isSym t "\x7d" then bump t; return t else failLacking t g (some "\x7d")

/-- Consumes the punctuation `p` where it does not end what is being read:
a supplied token does not serve there, since the token after it would continue
the same form. -/
def expectInner (p : String) : Reader Token := do
  let (g, t) ← peekWith .operator
  if t.kind == .punct p then bump t; return t else failAt t g

/-- Consumes `p` if it is ahead. -/
def eat (p : String) : Reader (Option Token) := do
  let t ← peek
  if isSym t p then bump t; return some t else return none

/-- Whether the token ahead is the punctuation `p`. -/
def sees (p : String) : Reader Bool := return isSym (← peek) p

/-- The word ahead, if the token ahead is one. -/
def wordAhead : Reader (Option String) := do
  let t ← peek
  if t.kind == .word then return some (← textOf t) else return none

/-- Whether the token ahead is the word `w`. -/
def atWord (w : String) : Reader Bool := return (← wordAhead) == some w

/-- Where the last token read stops. -/
def here : Reader Nat := return (← get).pos

/-- Where a statement ends without a semicolon, if it may end here: the gap
ahead must allow it and no token may be supplied there; unless `lenient`, no
repair may forbid it either. -/
def suppliedWhen (lenient : Bool) : Reader (Option Nat) := do
  let ctx ← read
  let c ← get
  let g := ctx.scanner.gap .operator c.pos
  let pending := match ctx.inserts[c.used]? with
    | some (anchor, _) => anchor = g.next
    | none => false
  if pending || (!lenient && ctx.quiet.contains g.next) then return none
  else return ((c.pos :: g.marks).find? ctx.scanner.supplyFrom)

/-- Where a statement ends without a semicolon, if it may end here: the gap
ahead must allow it and no repair may forbid it. -/
def supplied : Reader (Option Nat) := suppliedWhen false

/-- Whether a statement could end right after the token `t` without a semicolon:
the gap after it allows one, and no repair supplies a token or forbids a
semicolon there. -/
def suppliedAfter (t : Token) : Reader Bool := do
  let ctx ← read
  let c ← get
  let g := ctx.scanner.gap .operator t.stop
  let pending := match ctx.inserts[c.used]? with
    | some (anchor, _) => anchor = g.next
    | none => false
  return !pending && !ctx.quiet.contains g.next && ctx.scanner.semicolonSupplied t.stop g

/-- Whether nothing but blanks and comments is left to read. -/
def atTextEnd : Reader Bool := return (← peek).kind == .eof

/-- Whether an operand that ends at `i` may no longer be read as a target. -/
def isFrozen (i : Nat) : Reader Bool := return (← read).frozen.contains i

/-- Words the grammar has as keywords of its own that a name may still spell where
no keyword fits. -/
def keywordNames : List String := ["yield", "await", "of", "as", "from", "target", "meta"]

/-- Whether the word `w` of the token `t` must be read as a keyword: a word of
`keywordNames` that a repair leads to after skipping the failing token. -/
def isStrictWord (t : Token) (w : String) : Reader Bool :=
  return (← read).strict.contains t.start && keywordNames.contains w

/-- Whether an operand that ends at `i` may end whole expressions: one that a
skipped stretch follows, or a bare `yield` whose operator was popped. -/
def isWhole (i : Nat) : Reader Bool := do
  let ctx ← read
  let s := ctx.scanner
  let bareYield := ctx.frozen.contains i && i ≥ 5 && s.slice (i - 5) i == "yield" &&
    (i == 5 || !s.charIs (i - 6) Chars.isNameChar)
  return ctx.whole.contains i || bareYield

/-- Records a fault. -/
def fault (f : Fault) : Reader Unit := modify fun c => { c with faults := f :: c.faults }

/-- Records the fault of a node once what it holds has been read: it stands before
the faults recorded since `before`, the faults the node held when its reading began. -/
def faultAround (before : List Fault) (f : Fault) : Reader Unit :=
  modify fun c =>
    { c with faults := c.faults.take (c.faults.length - before.length) ++ f :: before }

/-- Tries `p`; if it fails, tries `q` from the same place.  When both fail, the
failure further into the text stands, the second one on a tie. -/
def orElse {α : Type} (p q : Reader α) : Reader α :=
  tryCatch p fun e1 => tryCatch q fun e2 => throw (if e1.spot > e2.spot then e1 else e2)

/-- Tries `p`; if it fails, tries `q` from the same place, and if that fails
too, the failure of `p` stands. -/
def orElseFirst {α : Type} (p q : Reader α) : Reader α :=
  tryCatch p fun e1 => tryCatch q fun _ => throw e1

/-- Runs `p`, giving its failure as a value; a failed run leaves the cursor as it was. -/
def attempt {α : Type} (p : Reader α) : Reader (Except Failure α) :=
  tryCatch (Except.ok <$> p) fun e => pure (.error e)

/-- Runs `p` inside a function body, or outside one.  Once a function body is
read through, the `return` statements in it are settled. -/
def inside {α : Type} (fn : Bool) (p : Reader α) : Reader α := do
  let saved := (← get).pendingReturns
  let x ← withReader (fun ctx => { ctx with inFunction := fn }) p
  if fn then modify fun c => { c with pendingReturns := saved }
  return x

/-- Records a `return` statement: it is stray outside functions, and pending
inside a function until the function is closed. -/
def noteReturn (at_ : Nat) : Reader Unit := do
  if (← read).inFunction then
    modify fun c => { c with pendingReturns := at_ :: c.pendingReturns }
  else modify fun c => { c with strayReturns := at_ :: c.strayReturns }

/-- The failure of reading too deep a nesting. -/
def tooDeep {α : Type} : Reader α := do
  let (g, t) ← peekWith .operator
  failAt t g

end Reader

end ScriptGate
