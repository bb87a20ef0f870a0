import ScriptGate.Syntax.Parser.Grammar

/-!
# Reading a whole text

`Reading.run` reads a text under a repair from its first statement to its end.
It gives the statements, the faults found on the way in the order of the
text, the starts of `return` statements outside functions, and the supplied
tokens the repair made the reading use; or the first place where reading
stopped.

The fuel is sixteen times the length of the text and a margin: every reader
consumes a token or descends into one, and a token is at least a character
long, so the fuel never runs out on a text that reads.

A reading passes a *checkpoint* before each statement of the top level: what
it has read and the state it is in.  A reading under another repair that agrees
with the first below the checkpoint's `safe` position reads the same up to
there, so `Reading.resume` takes it up at the checkpoint instead of reading the
text again from its start.  A statement's reading looks at most at the token
after it; `safe` lies past the one after that.
-/

namespace ScriptGate

/-- What one reading of a whole text gives. -/
structure Reading where
  /-- The statements. -/
  body : List Node
  /-- Faults, in the order of the text. -/
  faults : List Fault
  /-- Starts of `return` statements outside functions, in order. -/
  strayReturns : List Nat
  /-- Supplied tokens read: where each stands, and the name of what it stands for. -/
  supplied : List (Nat × String)

/-- Whether a statement is an `import` or `export` statement. -/
def Node.isModuleItem : Node → Bool
  | .importDeclaration .. | .exportNamedDeclaration .. | .exportDefaultDeclaration ..
  | .exportAllDeclaration .. => true
  | _ => false

/-- A place before a statement of the top level where a reading may be taken up
again. -/
structure Checkpoint where
  /-- How many statements had been read. -/
  count : Nat
  /-- The statements read, latest first. -/
  body : List Node
  /-- The state of the reading. -/
  cursor : Cursor
  /-- A repair that agrees below this position with the one read under reads the
  same up to here. -/
  safe : Nat

namespace Grammar

open Reader

/-- The next statement of the top level, an `import` or `export` statement being
noted as it is read; `none` at the end of the text. -/
def topStatement (n : Nat) : Reader (Option Node) := do
  let t ← peekOperand
  if t.kind == .eof then return none
  let s ← statement n
  if s.isModuleItem then
    modify fun c => { c with moduleItems := s.span.start.offset :: c.moduleItems }
  return some s

end Grammar

namespace Reading

/-- Where the token after the one after `pos` ends, read either way: no statement
that ends at `pos` looks that far. -/
def safeAfter (s : Scanner) (pos : Nat) : Nat :=
  let next (i : Nat) : Token × Token :=
    (s.tokenAt .operand (s.gap .operand i).next, s.tokenAt .operator (s.gap .operator i).next)
  let (a, b) := next pos
  let (c, d) := next (max a.stop b.stop)
  max c.stop d.stop + 1

/-- Reads the statements of the top level from the cursor `c`, `k` of them read
before, at most `fuel` more; gives what it read or where it stopped, and the
checkpoints it passed, latest first, before `trail`. -/
def steps (ctx : Context) : Nat → Nat → Cursor → List Node → List Checkpoint →
    Except Failure (List Node × Cursor) × List Checkpoint
  | 0, _, c, acc, trail =>
    match ((Reader.tooDeep : Reader Unit).run ctx).run c with
    | .ok (_, c') => (.ok (acc.reverse, c'), trail)
    | .error e => (.error e, trail)
  | n + 1, k, c, acc, trail =>
    let here : Checkpoint := ⟨k, acc, c, safeAfter ctx.scanner c.pos⟩
    match ((Grammar.topStatement n).run ctx).run c with
    | .ok (none, c') => (.ok (acc.reverse, c'), here :: trail)
    | .ok (some s, c') => steps ctx n (k + 1) c' (s :: acc) (here :: trail)
    | .error e => (.error e, here :: trail)

/-- The fuel of a reading of `text`. -/
def fuelFor (text : Array Char) : Nat := 16 * text.size + 256

/-- What a reading gives, from the statements and the final cursor. -/
def ofSteps (res : Except Failure (List Node × Cursor)) : Except Failure Reading :=
  match res with
  | .ok (body, c) => .ok ⟨body, c.faults.reverse, c.strayReturns.reverse, c.supplied.reverse⟩
  | .error e => .error e

/-- Reads a whole text under a repair, with the checkpoints passed, latest first. -/
def runWith (text : Array Char) (r : Repair) : Except Failure Reading × List Checkpoint :=
  let (res, trail) := steps (Context.make text r) (fuelFor text) 0 {} [] []
  (ofSteps res, trail)

/-- Reads a whole text under a repair. -/
def run (text : Array Char) (r : Repair) : Except Failure Reading := (runWith text r).1

/-- Reads a text under a repair from a checkpoint on, with the checkpoints passed. -/
def resume (text : Array Char) (r : Repair) (cp : Checkpoint) :
    Except Failure Reading × List Checkpoint :=
  let (res, trail) :=
    steps (Context.make text r) (fuelFor text - cp.count) cp.count cp.cursor cp.body []
  (ofSteps res, trail)

/-- Reads a text under the repair `r`, taken up at the latest checkpoint of `trail`,
passed by a reading under `base`, below whose `safe` position `r` agrees with
`base`; from the start when there is none. -/
def again (text : Array Char) (base r : Repair) (trail : List Checkpoint) :
    Except Failure Reading × List Checkpoint :=
  let lim := base.firstChange r
  match trail.dropWhile (fun cp => lim.any (cp.safe > ·)) with
  | cp :: older =>
    let (res, newer) := resume text r cp
    (res, newer ++ older)
  | [] => runWith text r

/-- Where a program's span starts: at its first character that is not blank. -/
def programStart (text : Array Char) : Nat :=
  (text.toList.findIdx? fun c => !Chars.isBlank c).getD text.size

end Reading

end ScriptGate
