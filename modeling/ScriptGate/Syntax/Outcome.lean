import ScriptGate.Syntax.Parser.Program
import ScriptGate.Syntax.ModuleFormat
import ScriptGate.Syntax.Recovery
import ScriptGate.Text.Glyph
import ScriptGate.Data.Value

/-!
# Reading a source text

`readSource` reads a source text in a module format and gives the tree, or the
syntax errors that stop it.

* The format `infer` is resolved from the text's marks (`ModuleFormat.detect`);
  only a declarative module is read as a module.
* A text that does not read is repaired (`Recovery.repair`); each repair is
  an error: a skipped stretch by its first token, a supplied token by its
  name.
* In a script, every top-level `import` or `export` statement is an error, and
  so is every `return` outside a function.
* When nothing else is wrong, the first fault of the tree decides: a node the
  tree has no shape for is an error, a numeric literal without a value or an
  escape beyond Unicode makes reading fail altogether.

Errors are kept once per message and place, sorted by place (ties keep their
order) and cut to the cap.
-/

namespace ScriptGate

/-- A syntax error: its message and its place, with a column counted from 0. -/
structure SyntaxError where
  /-- What is wrong. -/
  message : String
  /-- The line, from 1. -/
  line : Nat
  /-- The column, from 0. -/
  column : Nat
deriving Repr, DecidableEq, Inhabited

/-- Why reading fails altogether. -/
inductive ReadFailure where
  /-- The cap on errors is below 1. -/
  | capTooSmall (cap : Int)
  /-- A numeric literal has no value. -/
  | malformedNumber (raw : String)
  /-- An escape names a code point beyond U+10FFFF. -/
  | beyondUnicode (code : Nat)
deriving Repr, DecidableEq, Inhabited

/-- What reading a source gives. -/
structure SourceReading where
  /-- The tree, when there are no errors. -/
  program : Option Node
  /-- The errors, sorted and capped. -/
  errors : List SyntaxError
  /-- The resolved format. -/
  format : ModuleFormat
deriving Inhabited

namespace SyntaxError

/-- The message for a skipped stretch whose first token reads `text`. -/
def skippedMessage (text : String) : String :=
  let t := String.ofList
    ((text.toList.dropWhile Chars.isSplitSpace).reverse.dropWhile Chars.isSplitSpace).reverse
  match t.toList with
  | [] => "Unexpected end of input"
  | c :: _ =>
    if c = '"' ∨ c = '\'' then "Unterminated string constant."
    else if c = '`' then "Unterminated template."
    else if t.length > 20 then "Unexpected token '" ++ String.ofList (t.toList.take 20) ++ "...'"
    else "Unexpected token '" ++ t ++ "'"

/-- The message for a supplied token. -/
def suppliedMessage (name : String) : String :=
  if name = ";" then "Missing semicolon." else "Unexpected token, expected \"" ++ name ++ "\""

/-- The message for a module statement in a script. -/
def moduleInScript : String := "'import' and 'export' may appear only with 'sourceType: module'"

/-- The message for a `return` outside a function. -/
def strayReturn : String := "'return' outside of function."

/-- The message for a node the tree has no shape for. -/
def unsupported (kind : String) : String :=
  "Unsupported syntax: " ++ String.ofList (kind.toList.map fun c => if c = '_' then ' ' else c)

/-- Errors without repeats, the first of each kept. -/
def dedup (es : List SyntaxError) : List SyntaxError :=
  es.foldl (fun acc e => if acc.contains e then acc else acc ++ [e]) []

/-- Errors sorted by place, ties in their order, cut to `cap`. -/
def arrange (es : List SyntaxError) (cap : Nat) : List SyntaxError :=
  ((dedup es).mergeSort fun a b =>
    a.line < b.line || (a.line == b.line && a.column ≤ b.column)).take cap

end SyntaxError

/-- An error with a message, placed at a character of the text. -/
def SyntaxError.atChar (ctx : Context) (message : String) (i : Nat) : SyntaxError :=
  let p := ctx.place i
  ⟨message, p.line, p.column⟩

/-- The errors of a text that recovery left as `outcome`: each repair, each top-level
module statement unless the text is read as a module, each stray `return`. -/
def Recovery.Outcome.errors (outcome : Recovery.Outcome) (ctx : Context) (isModule : Bool) :
    List SyntaxError :=
  let repairErrors := outcome.marks.map fun m => match m with
    | .skipped p leaf => SyntaxError.atChar ctx (SyntaxError.skippedMessage leaf) p
    | .supplied p name => SyntaxError.atChar ctx (SyntaxError.suppliedMessage name) p
  let moduleErrors := if isModule then [] else
    outcome.moduleItems.map (SyntaxError.atChar ctx SyntaxError.moduleInScript)
  let returnErrors := outcome.strayReturns.map (SyntaxError.atChar ctx SyntaxError.strayReturn)
  repairErrors ++ moduleErrors ++ returnErrors

/-- Reads a source text in a format, keeping at most `cap` errors. -/
def readSource (source : GlyphText) (format : ModuleFormat) (cap : Int) :
    Except ReadFailure SourceReading := do
  if cap < 1 then throw (.capTooSmall cap)
  let chars := source.chars
  let resolved := format.resolve chars
  let isModule := resolved = .esm
  let text := chars.toArray
  let ctx := Context.make text {}
  let outcome := Recovery.repair text
  let errors := outcome.errors ctx isModule
  let cap := cap.toNat
  if !errors.isEmpty then
    return ⟨none, SyntaxError.arrange errors cap, resolved⟩
  match outcome.reading with
  | none => return ⟨none, [], resolved⟩
  | some r =>
    match r.faults.head? with
    | some (.unsupported kind p) =>
      return ⟨none, SyntaxError.arrange [SyntaxError.atChar ctx (SyntaxError.unsupported kind) p] cap,
        resolved⟩
    | some (.badNumber raw _) => throw (.malformedNumber raw)
    | some (.badEscape code _) => throw (.beyondUnicode code)
    | none =>
      let start := Reading.programStart text
      let span := ctx.span start text.size
      return ⟨some (.program span r.body isModule), [], resolved⟩

end ScriptGate
