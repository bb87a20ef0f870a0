import ScriptGate.Syntax.Parser.Program

/-!
# Recovering from syntax errors

A text that does not read is repaired, one failure at a time, until it reads.
At a failure, two kinds of repair are tried:

* *supplying* a token the text lacks (a name, a closing bracket, a semicolon,
  a closing quote, …) just before the token that failed; it must end the form
  being read, so that the failing token then continues an enclosing one;
* *skipping* a stretch that holds the failing token or ends right before it:
  tokens already read (popped back) and tokens ahead (skipped forward).

Each repair has a cost.  Supplying costs `supplyCost`; skipping costs
`skipBase`, plus a unit per byte, `lineCost` per line break and `treeCost`
per tree in the stretch (a bracketed group read through is one tree).  A stretch
skipped forward holds a few tokens, or, in a block whose opening brace follows a
stretch skipped where a statement starts, all the rest of that block.  A repair
counts only if the reading then gets past the token after it; of the skips that
end at the same place, only the one that starts latest counts, and none that
starts earlier than one popped back to where the reading has a step to take on
the token after it, even if that step fails.  A repair whose
reading fails again is passed over when another repair, costing less than one
tree more, has settled by that failure and reads past it.  Each remaining
repair is judged with the cheapest repair of the failure it leads to, if any,
and the least that a failure after that one costs; the cheapest wins, and on a
tie the one that starts later.

A failure at the end of the text is mended by one supplied token that lets the
whole text read.  When nothing mends it, or no repair counts at some failure,
the whole text is one error, reported at its first token; the `return`
statements and the module statements read by then are still reported.

After a repair no semicolon is supplied right before the token it leads to: that
token was read where no statement could end.  An operand read before a popped
postfix or binary operator stays an expression: it is no longer a target, a
parameter or a label.  An operand read right before a stretch skipped forward
may end whole expressions, so that a closing brace may follow it.

A failing token that no rule takes, as a stray backslash, is always skipped.
-/

namespace ScriptGate

namespace Recovery

/-- One repair, as the errors report it. -/
inductive Mark where
  /-- A stretch skipped from `at_`, whose first token reads `leaf`. -/
  | skipped (at_ : Nat) (leaf : String)
  /-- A token supplied at `at_`, by the name of what it stands for. -/
  | supplied (at_ : Nat) (name : String)
deriving Repr, DecidableEq, Inhabited

/-- What recovering a text gives. -/
structure Outcome where
  /-- The repairs. -/
  marks : List Mark
  /-- Starts of top-level `import` and `export` statements. -/
  moduleItems : List Nat
  /-- Starts of `return` statements outside functions. -/
  strayReturns : List Nat
  /-- The reading, when the text reads without repair. -/
  reading : Option Reading

/-- The cost of supplying a token. -/
def supplyCost : Nat := 610

/-- The fixed cost of skipping a stretch. -/
def skipBase : Nat := 500

/-- The cost of each tree in a skipped stretch. -/
def treeCost : Nat := 100

/-- The cost of each line break in a skipped stretch. -/
def lineCost : Nat := 30

/-- How many tokens a skip reaches back. -/
def reach : Nat := 6

/-- How many tokens a skip reaches forward. -/
def forwardReach : Nat := 10

/-- The tokens a repair may supply, in the order they are tried. -/
def supplies : List String :=
  ["identifier", "\x7d", ";", ")", ":", "]", "\"", "'", "`", "/", "/>", ">"]

/-- Operators that need the operand before them read as an expression. -/
def isPostfix (p : String) : Bool :=
  [".", "?.", "[", "(", "`", "?"].contains p || (binaryPower p false).isSome

/-- The text of the first token or comment at `p`, as an error quotes it. -/
def leafText (s : Scanner) (p : Nat) : String :=
  if s.hasAt p "//" then s.slice p (s.scanWhile (fun c => !Chars.isLineEnd c) (p + 2))
  else if s.hasAt p "/*" then
    match s.closeComment (p + 2) with
    | some e => s.slice p e
    | none => "/"
  else if s.hasAt p "#!" then s.slice p (s.scanWhile (· ≠ '\n') p)
  else
    let t := s.tokenAt .operator p
    match t.kind with
    | .string q .. => String.singleton q
    | .eof => ""
    | _ => s.slice t.start t.stop

/-- The text of the token that failed, as an error quotes it.  The token is read again
as a reader that has lost its place reads it, and such a reader knows no arrow:
`=>` is quoted as `=`. -/
def failedText (s : Scanner) (p : Nat) : String :=
  let t := leafText s p
  if t == "=>" then "=" else t

/-- Starts of the top-level `import` and `export` statements of a body. -/
def moduleItems (body : List Node) : List Nat :=
  body.filterMap fun s => if s.isModuleItem then some s.span.start.offset else none

/-- The trees a token read and then popped back makes: a string or pattern read
through is one; an open string is its pieces. -/
def poppedTrees (t : Token) : Nat :=
  match t.kind with
  | .string _ true _ | .regex _ => 1
  | _ => t.pieces

/-- Whether a token opens a bracket. -/
def isOpener (t : Token) : Bool :=
  match t.kind with
  | .punct p => p = "(" || p = "[" || p = "\x7b" || p = "$\x7b"
  | _ => false

/-- Whether a token closes a bracket. -/
def isCloser (t : Token) : Bool :=
  match t.kind with
  | .punct p => p = ")" || p = "]" || p = "\x7d"
  | _ => false

/-- The closer a supplied token gives for an opening parenthesis, bracket or backquote. -/
def closerOf (t : Token) : Option String :=
  match t.kind with
  | .punct "(" => some ")"
  | .punct "[" => some "]"
  | .punct "`" => some "`"
  | _ => none

/-- The places a stretch popped back may start: tokens read before the failure,
latest first, each with the token before it and the trees the stretch holds.  A
bracketed group read through counts as one tree and holds no start. -/
def popStarts : List Token → Nat → Nat → Nat → List (Token × Option Token × Nat)
  | [], _, _, _ => []
  | _, 0, _, _ => []
  | t :: rest, n + 1, depth, trees =>
    let before := rest.head?
    if isCloser t then popStarts rest (n + 1) (depth + 1) trees
    else if depth > 0 then
      if isOpener t then
        if depth = 1 then (t, before, trees + 1) :: popStarts rest n 0 (trees + 1)
        else popStarts rest (n + 1) (depth - 1) trees
      else popStarts rest (n + 1) depth trees
    else
      let k := trees + poppedTrees t
      (t, before, k) :: popStarts rest n 0 k

/-- The tokens from `t` on, at most `n` of them, as a stretch skipped forward
reads them. -/
def tokensFrom (s : Scanner) : Nat → Token → List Token
  | 0, _ => []
  | n + 1, t =>
    if t.kind == .eof then []
    else t :: tokensFrom s n (s.tokenAt .operator (s.gap .operator t.stop).next)

/-- How many tokens a stretch skipped to the end of its block may hold. -/
def blockReach : Nat := 400

/-- The rest of the block that the token `t` stands in, up to the brace that closes
it, as a stretch skipped forward after brief recoveries holds it: the last token
before that brace and the trees of the stretch, a bracketed group read through being
one tree.  `depth` groups are open; `last` and `trees` are what the stretch holds
so far.  None when the text ends, or a parenthesis or bracket closes, first. -/
def restOfBlock (s : Scanner) : Nat → Nat → Token → Option Token → Nat → Option (Token × Nat)
  | 0, _, _, _, _ => none
  | n + 1, depth, t, last, trees =>
    let next := s.tokenAt .operator (s.gap .operator t.stop).next
    if t.kind == .eof then none
    else if isCloser t then
      match depth with
      | 0 => if t.kind == .punct "\x7d" then last.map (·, trees) else none
      | 1 => restOfBlock s n 0 next (some t) (trees + 1)
      | d + 2 => restOfBlock s n (d + 1) next last trees
    else if isOpener t then restOfBlock s n (depth + 1) next last trees
    else if depth == 0 then restOfBlock s n 0 next (some t) (trees + t.pieces)
    else restOfBlock s n depth next last trees

/-- Whether the failing token is the first of a block whose opening brace only a
repair made one: the brace comes right after a skipped stretch that started where
a statement may start (at the start of the text, or after a semicolon or a brace).
Whatever that block holds was written for another form, so the rest of it may be
skipped as one stretch. -/
def repairedBlock (s : Scanner) (r : Repair) (f : Failure) : Bool :=
  match f.recent with
  | t :: earlier =>
    t.kind == .punct "\x7b" && r.skips.any fun (a, b) =>
      (s.gap .operator b).next == t.start &&
      match (earlier.dropWhile (·.start ≥ a)).head? with
      | some p => p.kind == .punct ";" || p.kind == .punct "\x7b" || p.kind == .punct "\x7d"
      | none => true
  | [] => false

/-- The cost of skipping `[a, b)`, made of `trees` trees. -/
def skipCost (s : Scanner) (a b trees : Nat) : Nat :=
  skipBase + s.text.foldl (fun n c => n + c.utf8Size + if c = '\n' then lineCost else 0) 0 a b +
    treeCost * trees

end Recovery

namespace Repair

/-- Adds a token supplied before the token at `anchor`; no semicolon is supplied
before that token. -/
def supply (r : Repair) (anchor : Nat) (sym : String) : Repair :=
  { r with inserts := r.inserts.filter (·.1 ≤ anchor) ++ [(anchor, sym)] ++
                      r.inserts.filter (·.1 > anchor),
           quiet := anchor :: r.quiet }

/-- Puts the stretch `[a, b)` among stretches held latest first, no two of which
meet, joined with those it meets: the stretches after it are passed, those it
meets are taken into it, and the rest, all before it, are kept as they are. -/
def addSkip (a b : Nat) : List (Nat × Nat) → List (Nat × Nat)
  | [] => [(a, b)]
  | (c, d) :: rest =>
    if b < c then (c, d) :: addSkip a b rest
    else if d < a then (a, b) :: (c, d) :: rest
    else addSkip (min a c) (max b d) rest

/-- Adds the skipped stretch `[a, b)`, joined with the stretches it meets; no
semicolon is supplied before the token at `next`, and an operand that ends at
`frozen` stays an expression. -/
def skip (r : Repair) (a b next : Nat) (frozen : Option Nat) : Repair :=
  { r with skips := addSkip a b r.skips,
           quiet := next :: r.quiet, frozen := frozen.toList ++ r.frozen }

end Repair

namespace Recovery

/-- A repair tried at a failure. -/
structure Candidate where
  /-- The repair with this step added. -/
  repair : Repair
  /-- What the step costs. -/
  cost : Nat
  /-- Where its error stands. -/
  start : Nat
  /-- The stretch it skips, as reported. -/
  mark : Option Mark
  /-- The token start the reading must get past for the step to count. -/
  progress : Nat

/-- How a reading ends, and the checkpoints it passed. -/
abbrev Ending := Except Failure Reading × List Checkpoint

/-- How a reading under a candidate ends, if it gets past the candidate.  The
reading is taken up at a checkpoint of `trail`, passed by the reading under
`base` that the candidate repairs, where it can be. -/
def attempt (text : Array Char) (base : Repair) (trail : List Checkpoint) (c : Candidate) :
    Option Ending :=
  let (res, trail') := Reading.again text base c.repair trail
  match res with
  | .ok r => some (.ok r, trail')
  | .error f => if f.spot > c.progress then some (.error f, trail') else none

/-- Whether a failure is at the end of the text. -/
def atEnd (f : Failure) : Bool := f.token.kind == .eof

/-- The supplied token that lets the whole text read after a failure at its end:
the first that does, but among the statements of a case a semicolon is supplied
first, and nothing else is tried. -/
def mendEnd (text : Array Char) (r : Repair) (trail : List Checkpoint) (f : Failure) :
    Option (Repair × Reading) :=
  let order := if f.lacking == some ";" then [";"] else supplies
  order.findSome? fun sym =>
    let r' := r.supply f.spot sym
    match (Reading.again text r r' trail).1 with
    | .ok reading => some (r', reading)
    | .error _ => none

/-- Whether a token ends an operand: a name or a literal, `this`, `super`, `true`,
`false` and `null`, or a closing parenthesis or bracket. -/
def endsOperand (s : Scanner) (t : Token) : Bool :=
  match t.kind with
  | .word =>
    let w := s.slice t.start t.stop
    !isReserved w || ["this", "super", "true", "false", "null"].contains w
  | .number | .string _ true _ | .regex _ | .privateName => true
  | .punct p => p == ")" || p == "]"
  | _ => false

/-- How a run of tokens read backwards goes on after an operand's piece. -/
inductive ChainStep where
  /-- An operand's end is wanted: a name, a literal or a closing bracket. -/
  | wanting
  /-- A name or literal was passed: a `.` or `?.` may join it to more. -/
  | afterName
  /-- A bracketed group was passed: what it calls or subscripts may stand before it. -/
  | afterGroup
  /-- Inside a bracketed group, at this depth. -/
  | inGroup (depth : Nat) (next : ChainStep)

/-- The tokens from the one before the operand whose tokens, latest first, start
the list: names, literals, `.`, `?.`, bracketed groups and postfix `++` and `--`
are passed over. -/
def operandRest (s : Scanner) : List Token → ChainStep → List Token
  | [], _ => []
  | t :: rest, .inGroup d next =>
    if isCloser t then operandRest s rest (.inGroup (d + 1) next)
    else if isOpener t then
      match d with
      | 0 | 1 => operandRest s rest next
      | d + 1 => operandRest s rest (.inGroup d next)
    else operandRest s rest (.inGroup d next)
  | t :: rest, step =>
    let joins := t.kind == .punct "." || t.kind == .punct "?."
    match step with
    | .afterName => if joins then operandRest s rest .wanting else t :: rest
    | _ =>
      if isCloser t then operandRest s rest (.inGroup 1 .afterGroup)
      else if endsOperand s t then operandRest s rest .afterName
      else if (t.kind == .punct "++" || t.kind == .punct "--") &&
          (rest.head?.any fun u => endsOperand s u || isCloser u) then
        operandRest s rest .wanting
      else t :: rest

/-- The token before the operand whose tokens, latest first, start the list;
`none` when the operand starts the text. -/
def operandFront (s : Scanner) (ts : List Token) : Option Token :=
  (operandRest s ts .wanting).head?

/-- The closers owed after one more token, the innermost first: inside a template
only a substitution or the closing backquote counts. -/
def owedAfter (owed : List String) (u : Token) : List String :=
  match owed, u.kind with
  | "`" :: more, .punct "`" => more
  | "`" :: _, .punct "$\x7b" => "\x7d" :: owed
  | "`" :: _, _ => owed
  | _, .punct "(" => ")" :: owed
  | _, .punct "[" => "]" :: owed
  | _, .punct "\x7b" => "\x7d" :: owed
  | _, .punct "`" => "`" :: owed
  | c :: more, .punct p => if p == c then more else owed
  | _, _ => owed

/-- Whether what was opened, owing `owed`, stays open through the tokens `ts`, read
in order. -/
def staysOpen : List String → List Token → Bool
  | [], _ => false
  | _, [] => true
  | owed, u :: rest => staysOpen (owedAfter owed u) rest

/-- What a call, a subscript or a template opened at `t` owes. -/
def owedBy (t : Token) : List String :=
  match t.kind with
  | .punct "(" => [")"]
  | .punct "[" => ["]"]
  | .punct "`" => ["`"]
  | _ => []

/-- Whether a stretch popped back from `start` begins inside an operand the reader
has already read whole: right after a `.` or `?.`, or at the `.`, `?.`, call,
subscript or template that goes on from an operand and is closed before the
failure.  The reader has taken such an operand in as one piece, so it is never
popped back to a place inside it. -/
def withinOperand (s : Scanner) (f : Failure) (start : Nat) : Bool :=
  let inside := (f.recent.takeWhile (·.start ≥ start)).reverse
  match inside, (f.recent.dropWhile (·.start ≥ start)).head? with
  | t :: rest, some b =>
    b.kind == .punct "." || b.kind == .punct "?." ||
    (endsOperand s b && (t.kind == .punct "." || t.kind == .punct "?." ||
      (!(owedBy t).isEmpty && !staysOpen (owedBy t) rest)))
  | _, _ => false

/-- The innermost bracket left open among tokens read latest first: `depth` closers
are still to be matched. -/
def enclosing : List Token → Nat → Option Token
  | [], _ => none
  | u :: rest, depth =>
    if isCloser u then enclosing rest (depth + 1)
    else if isOpener u then
      match depth with
      | 0 => some u
      | d + 1 => enclosing rest d
    else enclosing rest depth

/-- Whether a reading popped back to right after the operand that ends at `before`
has a step to take on `u`, the token after the stretch popped.  It does when the
stretch begins with a call, a subscript or a template that is still open at the
failure, so that the operand was read as a whole expression and nothing has
taken it in since; and when that expression stands where a list of expressions
may (in a substitution, in parentheses, in a subscript) or as the right operand
of an operator, but not in a list of parameters.  The reader then has a step on a `;` or a `,`, and, inside
brackets, on a closing bracket or a `:`, even if that step leads it to fail at
`u` again.  `earlier` are the tokens before the stretch, latest first, and
`inside` those of the stretch in order. -/
def stepsOn (s : Scanner) (t : Token) (earlier inside : List Token) (u : Token) : Bool :=
  let opens := owedBy t
  let bracketed := match enclosing earlier 0 with
    | some o => o.kind != .punct "\x7b"
    | none => false
  let front := operandFront s earlier
  let prior (g : Token) : Option Token := (earlier.dropWhile (·.start ≥ g.start)).head?
  let listed := front.any fun g =>
    match g.kind with
    | .punct "$\x7b" => true
    | .punct "(" =>
      match prior g with
      | some p =>
        let word (w : String) (u : Token) : Bool := u.kind == .word && s.slice u.start u.stop == w
        let star := p.kind == .punct "*" && (prior p).any (word "function")
        !endsOperand s p && !word "function" p && !word "catch" p && !star
      | none => true
    | .punct "[" => (prior g).any (endsOperand s)
    | .punct p =>
      (bracketed && ((binaryPower p false).isSome || ["=", "?", ":"].contains p ||
        compoundAssignments.contains p)) || ((binaryPower p false).isSome && u.kind != .punct ":")
    | .word => ["in", "instanceof"].contains (s.slice g.start g.stop)
    | _ => false
  let inBrackets := front.any fun g =>
    g.kind == .punct "$\x7b" || g.kind == .punct "(" || g.kind == .punct "[" || bracketed
  staysOpen opens inside && (earlier.head?.any (endsOperand s)) && listed &&
  match u.kind with
  | .punct ";" | .punct "," => true
  | .punct ")" | .punct "]" | .punct "\x7d" | .punct ":" => inBrackets
  | _ => false

/-- The stretches to skip that end at `stop`, with the token after them at `next`,
latest start first: the failing token on its own if the stretch reaches past it,
then each place popped back.  A word at `next` after a stretch that holds the
failing token is read as a keyword where the grammar has it as one: it is read
as a reader that has lost its place reads it. -/
def spansTo (s : Scanner) (r : Repair) (f : Failure) (stop next forwardTrees : Nat) (u : Token) :
    List (Candidate × Bool) :=
  let popped := popStarts f.recent reach 0 0
  let whole := match f.recent.head? with
    | some t => if endsOperand s t then [t.stop] else []
    | none => []
  let strict (r : Repair) : Repair :=
    if stop > f.spot then { r with strict := next :: r.strict } else r
  let own : List (Candidate × Bool) :=
    if stop > f.spot then
      let r' := r.skip f.spot stop next none
      [(⟨strict { r' with whole := whole ++ r'.whole }, skipCost s f.spot stop forwardTrees, f.spot,
        some (.skipped f.spot (failedText s f.spot)), next⟩, false)]
    else []
  let lastRead := (f.recent.head?.map Token.stop).getD f.prevEnd
  let e := if stop > f.spot then stop else lastRead
  own ++ popped.map fun (t, before, trees) =>
    let frozen := match t.kind, before with
      | .punct p, some b => if isPostfix p then some b.stop else none
      | _, _ => none
    (⟨strict (r.skip t.start e next frozen), skipCost s t.start e (trees + forwardTrees), t.start,
      some (.skipped t.start (leafText s t.start)), next⟩,
      stepsOn s t (f.recent.dropWhile (·.start ≥ t.start))
        (f.recent.takeWhile (·.start > t.start)).reverse u)

/-- Whether two runs of tokens read alike: the same punctuation, literals of the same
kind, and words that are the same or both plain names.  A reading that pops one run
and a reading that skips the other then stand at the same place of the grammar. -/
def sameShape (s : Scanner) : List Token → List Token → Bool
  | [], [] => true
  | a :: as, b :: bs =>
    let alike := match a.kind, b.kind with
      | .word, .word =>
        let x := s.slice a.start a.stop
        let y := s.slice b.start b.stop
        x == y || (!isReserved x && !isReserved y)
      | k, l => k == l
    alike && sameShape s as bs
  | _, _ => false

/-- A repair to try, with the end of the stretch it skips, if it skips one, and how
the reading under it ends, worked out once when first asked. -/
structure Trial where
  /-- The repair. -/
  cand : Candidate
  /-- The end of the stretch it skips. -/
  stop : Option Nat
  /-- How the reading under it ends, if it gets past the repair. -/
  ending : Thunk (Option Ending)
  /-- Whether the reading, where the repair leaves it, has a step to take on the
  token after the stretch: a stretch that ends at the same place and starts earlier
  is then not tried, even when this reading fails at that token. -/
  commits : Thunk Bool

/-- A trial of a candidate that repairs `base`. -/
def Trial.of (text : Array Char) (base : Repair) (trail : List Checkpoint) (c : Candidate)
    (stop : Option Nat) (commits : Thunk Bool) : Trial :=
  ⟨c, stop, Thunk.mk fun _ => attempt text base trail c, commits⟩

/-- How the reading under a trial ends, if it gets past the repair. -/
def Trial.result (t : Trial) : Option (Except Failure Reading) := t.ending.get.map (·.1)

/-- Where a reading under a repair stops: the spot of its failure, none when it reads. -/
def stopOf (res : Except Failure Reading) : Option Nat :=
  match res with
  | .ok _ => none
  | .error f => some f.spot

/-- Whether the failing token is a keyword after an operand, where no keyword but
`in` and `instanceof` may stand: it is then taken for a plain name, and a token
supplied before it counts only if that name could be read after it.  The reading
that follows takes the word as a keyword again. -/
def demoted (s : Scanner) (f : Failure) : Bool :=
  f.token.kind == .word &&
  (let w := s.slice f.token.start f.token.stop
   isReserved w && w != "in" && w != "instanceof") &&
  match f.recent.head? with
  | some t => endsOperand s t
  | none => false

/-- Words that read as names but may also lead a form that a name follows: a
keyword after them is still read as a keyword. -/
def leadingWords : List String := ["yield", "await", "let", "async", "get", "set", "static", "of", "as"]

/-- Whether the failing token is a keyword that the reader, where it failed, takes
for a plain name: after an operand, as `demoted` says, unless that operand is a
word that may lead a form, or right after a string left open, where no word may
stand.  A stretch popped back then lands where that name may be read, or not. -/
def nameless (s : Scanner) (f : Failure) : Bool :=
  (demoted s f && !(f.recent.head?.any fun t =>
    t.kind == .word && leadingWords.contains (s.slice t.start t.stop))) ||
  (f.token.kind == .word && isReserved (s.slice f.token.start f.token.stop) &&
    f.recent.head?.any fun t =>
      match t.kind with
      | .string _ false _ => true
      | _ => false)

/-- The repair `r` for the text cut at `b`: its stretches, supplied tokens and
marks before `b`, and no semicolon supplied at the cut unless `open_`. -/
def cutRepair (r : Repair) (b : Nat) (open_ : Bool) : Repair :=
  { skips := r.skips.filter (·.2 ≤ b), inserts := r.inserts.filter (·.1 < b),
    quiet := (if open_ then [] else [b]) ++ r.quiet.filter (· < b),
    frozen := r.frozen.filter (· < b), plain := r.plain.filter (· < b),
    whole := r.whole.filter (· < b), strict := r.strict.filter (· < b) }

/-- The repairs to try at a failure away from the end, cheapest first and, at equal
cost, latest first: every token that may be supplied, and every stretch that
holds the failing token or ends right before it, reaching `reach` tokens back
and `forwardReach` forward; in a block that only a repair opened, as
`repairedBlock` says, also the stretch up to the brace that closes it.

A stretch skipped forward past the failing token is given up as soon as a
repair that stops at the failing token is cheaper than the tokens skipped so far
and reads past the last of them, and past the token after them too when it
starts before the stretch: while the stretch is being skipped, that repair goes
on reading.  A supplied token
other than a semicolon stands right before the failing token, so it starts no
earlier than any stretch that holds that token.

A failing token that no rule takes, as a stray backslash, is always skipped:
nothing is supplied before it, every stretch holds it, and the stretches that
end with it play the part of those that stop at the failing token.  A line
that begins with `#!` may also be kept, where the statements before it read
as a whole text: they are then popped back to the start, each statement, and a
first line that begins with `#!`, one tree. -/
def trials (text : Array Char) (r : Repair) (trail : List Checkpoint) (f : Failure) :
    List Trial :=
  let s : Scanner := ⟨text, r.skips⟩
  let stray := f.token.kind == .junk
  let base := if stray then f.token.stop else f.spot
  let demote := demoted s f
  let supplied : List Trial := if stray then [] else supplies.map fun sym =>
    let c : Candidate := ⟨r.supply f.spot sym, supplyCost, f.prevEnd, none, f.spot⟩
    if demote then
      let asName : Candidate := { c with repair := { c.repair with plain := f.spot :: c.repair.plain } }
      ⟨c, none, Thunk.mk fun _ =>
        if (attempt text r trail asName).isSome then attempt text r trail c else none,
        Thunk.pure false⟩
    else Trial.of text r trail c none (Thunk.pure false)
  let closers : List Trial := (supplies.zip supplied).filterMap fun (sym, t) =>
    if sym == ";" then none else some { t with cand := { t.cand with start := f.spot } }
  let ahead := tokensFrom s forwardReach f.token
  let aheadTrees := ahead.zip ((ahead.map Token.pieces).scanl (· + ·) 0).tail
  let lastAhead := (ahead.getLast?.map Token.stop).getD f.spot
  let blockRest := if !(repairedBlock s r f) then [] else
    (restOfBlock s blockReach 0 f.token none 0).toList.filter fun (t, _) => t.stop > lastAhead
  let ends : List (Nat × Nat × Nat) :=
    (if stray then [] else [(f.spot, f.spot, 0)]) ++ ((aheadTrees ++ blockRest).map fun (t, trees) =>
      (t.stop, (s.gap .operator t.stop).next, trees))
  let skipped : List Trial := ends.flatMap fun (stop, next, trees) =>
    let u := if next == f.spot then f.token else s.tokenAt .operator next
    let named := next == f.spot && nameless s f
    (spansTo s r f stop next trees u).map fun (c, k) =>
      let asName : Candidate := { c with repair := { c.repair with plain := f.spot :: c.repair.plain } }
      Trial.of text r trail c (some stop)
        (Thunk.mk fun _ => k || (named && c.start < f.spot && !withinOperand s f c.start &&
          (attempt text r trail asName).isSome))
  let pops := skipped.filter fun t => t.stop == some base && t.cand.start < f.spot
  let twinned (last : Nat) : Bool :=
    pops.any fun t =>
      sameShape s (f.recent.takeWhile (·.start ≥ t.cand.start)).reverse
        (ahead.takeWhile (·.stop ≤ last)) && t.result.isSome
  let steady : List (Candidate × Nat × Thunk (Option (Option Nat))) :=
    (skipped ++ closers).filterMap fun t =>
      let last := t.stop.getD f.spot
      if last == base || (t.cand.start == f.spot && !twinned last) then
        some (t.cand, last, Thunk.mk fun _ => t.result.map stopOf)
      else none
  let forwardCosts := (aheadTrees.map fun (t, trees) => skipCost s f.spot t.stop trees).toArray
  let forwardCost (j : Nat) : Nat := forwardCosts[j]?.getD 0
  let outrun (from_ k : Nat) : Bool :=
    (List.range (k + 1)).any fun j =>
      match ahead[j]? with
      | some t => steady.any fun (c, last, stop) =>
          let beyond := if from_ ≤ c.start then t.start
            else (ahead[j + 1]?.map Token.start).getD t.start
          last ≤ t.start && c.cost < forwardCost j &&
          match stop.get with
          | some stop => stop.all (· > beyond)
          | none => false
      | none => false
  let kept := skipped.filter fun t =>
    match t.stop with
    | some stop =>
      match ahead.findIdx? (·.stop == stop) with
      | some k => k == 0 || !outrun t.cand.start k
      | none => true
    | none => true
  let start := Reading.programStart text
  let leading := if s.hasAt 0 "#!" then some (s.scanWhile (· ≠ '\n') 0) else none
  let hashBang : List Trial :=
    match stray && s.hasAt f.spot "#!", (f.recent.head?.map Token.stop).or leading with
    | true, some lastRead =>
      match Reading.run (text.extract 0 f.spot) (cutRepair r f.spot true) with
      | .ok reading =>
        let cs := (text.extract start lastRead).toList
        let trees := reading.body.length + (if leading.isSome then 1 else 0)
        let cost := skipBase + (cs.map Char.utf8Size).foldl (· + ·) 0 +
          lineCost * (cs.filter (· = '\n')).length + treeCost * trees
        [Trial.of text r trail ⟨r.skip start lastRead f.spot none, cost, start,
          some (.skipped start (leafText s start)), f.spot⟩ none (Thunk.pure false)]
      | .error _ => []
    | _, _ => []
  (kept ++ supplied ++ hashBang).mergeSort fun a b =>
    a.cand.cost < b.cand.cost || (a.cand.cost == b.cand.cost && a.cand.start ≥ b.cand.start)

/-- Whether a token is a prefix operator where it stands, with the tokens before
it, latest first: `+` and `-` are when no operand ends right before them. -/
def isPrefix (s : Scanner) (t : Token) (rest : List Token) : Bool :=
  match t.kind with
  | .punct p =>
    ["!", "~", "++", "--"].contains p ||
      ((p == "+" || p == "-") && !(rest.head?.any fun u => endsOperand s u || isCloser u))
  | .word => ["typeof", "void", "delete", "await"].contains (s.slice t.start t.stop)
  | _ => false

/-- The tokens left after dropping the prefix operators that start the list. -/
def dropPrefixes (s : Scanner) : List Token → List Token
  | [] => []
  | t :: rest => if isPrefix s t rest then dropPrefixes s rest else t :: rest

/-- The binding power of a token read as a binary operator, and whether it groups
to the right. -/
def operatorPower (s : Scanner) (t : Token) : Option (Nat × Bool) :=
  match t.kind with
  | .punct p => binaryPower p false
  | .word => binaryPower (s.slice t.start t.stop) false
  | _ => none

/-- The token before the expression whose tokens, latest first, start the list,
where that expression is the left operand of a binary operator of power `p`:
operands, prefix operators and binary operators that bind at least as tightly
are passed over.  `fuel` bounds the operators passed. -/
def expressionFront (s : Scanner) (p : Nat) (right : Bool) : Nat → List Token → Option Token
  | 0, _ => none
  | fuel + 1, ts =>
    match dropPrefixes s (operandRest s ts .wanting) with
    | [] => none
    | u :: more =>
      match operatorPower s u with
      | some (k, _) =>
        if k > p || (k == p && !right) then expressionFront s p right fuel more else some u
      | none => some u

/-- Whether a token takes an expression whose front is `front` and goes on with
it at once, with no form around the expression to be closed first: a `;` after
the expression of a statement, of a `return` or of a `throw`; a `,` or a closing
`)` or `]` in a list of arguments or elements; a `,` in a statement's
expressions; the `}` of a template's substitution; the `:` of a condition or of
a case.  No front stands for the start of the text when `known`, the tokens read
reaching back to it. -/
def takesAtOnce (s : Scanner) (known : Bool) (front : Option Token) (t : Token) : Bool :=
  let is (q : String) : Bool := front.any (·.kind == .punct q)
  let word (w : String) : Bool := front.any fun u => u.kind == .word && s.slice u.start u.stop == w
  let statement : Bool := (known && front.isNone) || is ";" || is "\x7b" || is "\x7d" || is ")" ||
    front.any fun u => endsOperand s u && u.kind != .punct ")"
  match t.kind with
  | .punct ";" => statement || word "return" || word "throw"
  | .punct "," => statement || is "(" || is "[" || is ","
  | .punct ")" => is "(" || is ","
  | .punct "]" => is "[" || is ","
  | .punct "\x7d" => is "$\x7b"
  | .punct ":" => is "?" || word "case"
  | _ => false

/-- Whether the failing token goes on right where the opener left the operand
before it, so that supplying the closer leads to the state popping the opener
does: a call or a subscript leaves an expression, which takes an operator and
what `takesAtOnce` allows; a template leaves a narrower operand, which takes
`(` only after `new`. -/
def heldAtOpener (s : Scanner) (known : Bool) (opener : Token) (before : List Token)
    (t : Token) : Bool :=
  let template := opener.kind == .punct "`"
  match t.kind with
  | .punct ";" | .punct "," => !template && takesAtOnce s known (operandFront s before) t
  | .punct "(" =>
    !template || (operandFront s before).any fun u =>
      u.kind == .word && s.slice u.start u.stop == "new"
  | .punct p => if (binaryPower p false).isSome then !template else true
  | _ => true

/-- The start of a lone opener or binary operator read right before the failure
whose closer or right operand, supplied, lets the reading get past the failing
token and leaves the reading where popping it would: popping it alone is then no
repair. -/
def refusedPop (text : Array Char) (r : Repair) (trail : List Checkpoint) (f : Failure) :
    Option Nat :=
  let s : Scanner := ⟨text, r.skips⟩
  let known := f.recent.length < recentLimit
  match f.recent with
  | t :: before =>
    let sym := match closerOf t, operatorPower s t with
      | some sym, _ => if heldAtOpener s known t before f.token then some sym else none
      | none, some (p, right) =>
        if takesAtOnce s known (expressionFront s p right before.length before) f.token then
          some "identifier"
        else none
      | none, none => none
    match sym with
    | some sym =>
      let c : Candidate := ⟨r.supply f.spot sym, supplyCost, f.prevEnd, none, f.spot⟩
      if (attempt text r trail c).isSome then some t.start else none
    | none => none
  | [] => none

/-- Whether a candidate whose reading fails is overtaken: another repair, costing less
than a tree more, is settled by the token of that failure and reads past it.  Two supplied
tokens never overtake each other. -/
def overtaken (all : List Trial) (c : Candidate)
    (res : Except Failure Reading) : Bool :=
  match res with
  | .ok _ => false
  | .error f =>
    all.any fun t =>
      let y := t.cand
      (y.mark.isSome || c.mark.isSome) &&
      !(y.mark == c.mark && y.start == c.start && y.cost == c.cost && y.progress == c.progress) &&
      y.cost < c.cost + treeCost && y.progress ≤ f.spot &&
      match t.result with
      | some (.ok _) => true
      | some (.error g) => g.spot > f.spot
      | none => false

/-- The text a candidate skips, up to the token it leads to, without the blanks
around it. -/
def stretchText (text : Array Char) (c : Candidate) : String :=
  (String.ofList ((text.extract c.start c.progress).toList)).trimAscii.toString

/-- The best of the trials, each scored by its cost and what `rest` adds for the
reading it leads to; a tie goes to the later start, but a stretch popped back
wins over the same text skipped from the failing token on.  Trials come cheapest first,
so the search stops once a trial alone costs more than the best found.  Of the
stretches that end at the same place only the first that counts is scored; the
popped opener `refused` is passed over, and so is a trial overtaken by another of
`all`. -/
def bestOf (text : Array Char) (refused : Option Nat) (spot : Nat) (all : List Trial)
    (rest : Candidate → Ending → Option Nat) :
    List Trial → Option (Candidate × Nat) → List Nat → Option (Candidate × Nat)
  | [], best, _ => best
  | t :: ts, best, ends =>
    let c := t.cand
    let e := t.stop
    if best.any (fun b => c.cost > b.2) then best
    else if e.any ends.contains || (e == some spot && refused == some c.start) then
      bestOf text refused spot all rest ts best ends
    else
      match t.ending.get with
      | none =>
        bestOf text refused spot all rest ts best (if t.commits.get then e.toList ++ ends else ends)
      | some res =>
        let ends := e.toList ++ ends
        if overtaken all c res.1 then bestOf text refused spot all rest ts best ends
        else
        match rest c res with
        | none => bestOf text refused spot all rest ts best ends
        | some more =>
          let total := c.cost + more
          let best := match best with
            | some b =>
              if total < b.2 || (total == b.2 && (c.start > b.1.start ||
                  (b.1.start == spot && c.start < spot &&
                    stretchText text c == stretchText text b.1))) then some (c, total)
              else some b
            | none => some (c, total)
          bestOf text refused spot all rest ts best ends

/-- What the rest of a reading costs, looking `depth` failures further: nothing once
it reads, a supplied token at the end, or the cheapest repair of its next
failure; `none` when its end cannot be mended.  A failure beyond `depth` costs
what skipping one character costs, less than any repair of it. -/
def restCost (text : Array Char) (r : Repair) : Nat → Ending → Option Nat
  | _, (.ok _, _) => some 0
  | depth, (.error f, trail) =>
    if atEnd f then (mendEnd text r trail f).map fun _ => supplyCost
    else
      match depth with
      | 0 => some (skipBase + treeCost + 1)
      | d + 1 =>
        let ts := trials text r trail f
        (bestOf text (refusedPop text r trail f) f.spot ts
          (fun c res => restCost text c.repair d res) ts none []).map (·.2)

/-- The repair of a failure away from the end: the best trial, judged with the
repair of the failure it leads to. -/
def choose (text : Array Char) (r : Repair) (trail : List Checkpoint) (f : Failure) :
    Option Candidate :=
  let ts := trials text r trail f
  (bestOf text (refusedPop text r trail f) f.spot ts (fun c res => restCost text c.repair 1 res)
    ts none []).map (·.1)

/-- The whole text as one error: reported at its first token, with the `return`
statements and module statements read before the failure. -/
def wholeText (text : Array Char) (f : Failure) : Outcome :=
  let p := Reading.programStart text
  ⟨[.skipped p (leafText ⟨text, []⟩ p)], f.moduleItems.reverse, f.openReturns.reverse, none⟩

/-- The outcome of a reading under a repair that lets the text read. -/
def finish (marks : List Mark) (r : Reading) : Outcome :=
  let supplied := r.supplied.map fun (p, name) => Mark.supplied p name
  let marks := marks ++ supplied
  ⟨marks, moduleItems r.body, r.strayReturns, if marks.isEmpty then some r else none⟩

/-- How many trees back from the end of the text a place where it could have
ended is looked for. -/
def endDepth : Nat := 16

/-- A failure at the end of the text that nothing mends, and no list of statements
open around it: the text is read again up to the latest token start, at most
`endDepth` trees back, where it could have ended, a semicolon being supplied there
only where the text allows one; the rest is one error.  When no such place is
near enough, the whole text is one error. -/
def endRecovery (text : Array Char) (r : Repair) (f : Failure) (marks : List Mark) : Outcome :=
  let s : Scanner := ⟨text, r.skips⟩
  let starts := (popStarts f.recent recentLimit 0 0).filter fun (_, _, trees) => trees ≤ endDepth
  let ended := starts.findSome? fun (t, before, _) =>
    let b := t.start
    let open_ := match before with
      | some u => s.semicolonSupplied u.stop (s.gap .operator u.stop)
      | none => true
    match Reading.run (text.extract 0 b) (cutRepair r b open_) with
    | .ok reading => some (b, reading)
    | .error _ => none
  match ended with
  | some (b, reading) =>
    let kept := marks.filter fun m => match m with
      | .skipped p _ | .supplied p _ => p < b
    finish (kept ++ [.skipped b (leafText s b)]) reading
  | none => wholeText text f

/-- The marks after a candidate: a skipped stretch that meets earlier ones is one
stretch with them, reported at its start. -/
def joinMark (text : Array Char) (c : Candidate) (marks : List Mark) : List Mark :=
  match c.mark with
  | some (.skipped a _) =>
    match c.repair.skips.find? (fun (x, y) => x ≤ a ∧ a < y) with
    | some (lo, hi) =>
      let leaf := if lo == a then c.mark.map (fun m => match m with
          | .skipped _ l => l
          | .supplied _ n => n) else none
      (marks.filter fun m => match m with
        | .skipped p _ => p < lo ∨ hi ≤ p
        | .supplied .. => true) ++ [.skipped lo (leaf.getD (leafText ⟨text, []⟩ lo))]
    | none => marks ++ c.mark.toList
  | _ => marks ++ c.mark.toList

/-- Repairs failures one after another, at most `fuel` of them. -/
def settle (text : Array Char) : Nat → Repair → List Mark → Outcome
  | 0, r, marks =>
    match Reading.run text r with
    | .ok reading => finish marks reading
    | .error f => wholeText text f
  | n + 1, r, marks =>
    match Reading.runWith text r with
    | (.ok reading, _) => finish marks reading
    | (.error f, trail) =>
      if atEnd f then
        match mendEnd text r trail f with
        | some (_, reading) => finish marks reading
        | none => if f.lacking.isSome then wholeText text f else endRecovery text r f marks
      else
        match choose text r trail f with
        | some c => settle text n c.repair (joinMark text c marks)
        | none => wholeText text f

/-- Repairs a text until it reads. -/
def repair (text : Array Char) : Outcome :=
  settle text (text.size + 1) {} []

end Recovery

end ScriptGate
