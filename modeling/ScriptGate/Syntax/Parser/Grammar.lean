import ScriptGate.Syntax.Parser.Basic
import ScriptGate.Syntax.Parser.Shapes
import ScriptGate.Syntax.Numeral
import ScriptGate.Syntax.Cooking

/-!
# The grammar

A reader for each part of the language, from statements down to literals,
building the tree as it reads.  The readers follow the grammar of the
language's syntax trees as the reference tooling writes it, and accept what
it accepts: a member may stand in a pattern, `f(a,,b)` has two arguments,
`class A extends a ? b : c {}` is read.

Every reader takes a *fuel* argument, the depth it may still descend.  Each
reader passes one less to the readers it calls, so reading always ends; the
entry point gives enough fuel for any text whose nesting fits in its length.

Expressions are read by binding power.  An operand that ends where a
statement may end (`asiOk`) stops as soon as the gap ahead supplies a
semicolon: `a\n(b)` is a call, `a\nb` two statements.  Forms that read two
ways (`(a) => b` or `(a)`, `[a] = b` or `[a]`) are read once with all their
readings (`Operand`), and the token after them picks one.
-/

namespace ScriptGate.Grammar

open Reader

/-! ## Small readers -/

/-- The token after `t`, under an expectation; supplied tokens are not seen. -/
def peekAfter (t : Token) (mode : Expect) : Reader Token := do
  let ctx ← read
  return ctx.scanner.tokenAt mode (ctx.scanner.gap mode t.stop).next

/-- The word a token spells, if it is a word. -/
def wordOf (t : Token) : Reader (Option String) := do
  if t.kind == .word then return some (← textOf t) else return none

/-- Whether a token is a supplied name. -/
def isSuppliedName (t : Token) : Bool := t.kind == .missing "identifier"

/-- A name node for a word or a supplied name, recorded under `display`. -/
def nameNode (t : Token) (display : String) : Reader Node := do
  bumpAs t (some display)
  return .identifier (← spanOf t.start t.stop) (← textOf t)

/-- The two words of a meta property, read off its text: the spaces are left
out and the first dot parts the rest, so a comment between the words stays in
the word it follows or precedes, dots in it included. -/
def metaWords (text : String) : String × String :=
  let cs := text.toList.filter fun c => !Chars.isSplitSpace c
  (String.ofList (cs.takeWhile (· ≠ '.')), String.ofList ((cs.dropWhile (· ≠ '.')).drop 1))

/-- Whether a token may begin an operand. -/
def beginsOperand (t : Token) (w : Option String) : Bool :=
  match t.kind with
  | .word => w != some "in" && w != some "instanceof"
  | .number | .string .. | .regex _ | .regexOpen | .privateName => true
  | .punct p => ["(", "[", "\x7b", "!", "~", "+", "-", "++", "--", "<", "/", "`", "@"].contains p
  | .missing s => s == "identifier"
  | _ => false

/-- Whether a token may begin a property name. -/
def beginsPropertyName (t : Token) : Bool :=
  match t.kind with
  | .word | .number | .string .. | .privateName => true
  | .punct p => p == "["
  | .missing s => s == "identifier"
  | _ => false

/-- Where a statement ends: at its semicolon, or where one is supplied. -/
def semicolon : Reader Nat := do
  match ← supplied with
  | some p => return p
  | none =>
    let (g, t) ← peekWith .operator
    if isSym t ";" then bump t; return t.stop else failAt t g

/-- Where a statement that ends with expressions ends.  As `semicolon`, but when
a repair skipped what followed the last operand, or popped the operator after a
bare `yield`, that operand ends whole expressions, which a closing brace may
follow (as in a template): a semicolon may then be supplied before a closing
brace the repair led to. -/
def expressionsEnd : Reader Nat := do
  let lenient := (← isWhole (← here)) && (← sees "\x7d")
  match ← suppliedWhen lenient with
  | some p => return p
  | none => semicolon

/-- An expression that must be one; fails at the token ahead otherwise. -/
def asExpr (o : Operand) : Reader Node := do
  if o.isExpr then return o.node
  else
    let (g, t) ← peekWith .operator
    failAt t g

/-- The literal of a numeric token. -/
def numberLiteral (t : Token) : Reader Node := do
  let raw ← textOf t
  let sp ← spanOf t.start t.stop
  bump t
  match Numeral.read? raw with
  | some n =>
    let v := match n.value with
      | .int i => LiteralValue.int i
      | .float x => LiteralValue.float x
    return .literal sp v raw none n.bigint
  | none =>
    fault (.badNumber raw t.start)
    return .literal sp .null raw none none

/-- The cooked value of a raw body, recording a fault for an escape beyond Unicode. -/
def cookBody (body : String) (at_ : Nat) : Reader String := do
  match Cooking.cook (body.toList.map Char.toNat) with
  | .ok s => return s
  | .error (.beyondUnicode v) => fault (.badEscape v at_); return ""

/-- The literal of a string whose text runs from `start` to `stop`. -/
def stringLiteral (start stop : Nat) : Reader Node := do
  let ctx ← read
  let raw := ctx.scanner.slice start stop
  let body := if raw.length < 2 then "" else String.ofList ((raw.toList.drop 1).dropLast)
  let value ← cookBody body start
  return .literal (← spanOf start stop) (.string value) raw none none

/-- Reads a string token and, for an open one, its supplied closing quote. -/
def stringToken (t : Token) : Reader Node := do
  bump t
  match t.kind with
  | .string q false _ =>
    let (g, u) ← peekWith .operator
    if isSym u (String.singleton q) then bump u; stringLiteral t.start t.stop
    else failAt u g
  | _ => stringLiteral t.start t.stop

/-- Reads a regular expression token and, for an open one, its supplied closing slash. -/
def regexToken (t : Token) : Reader Node := do
  let ctx ← read
  bump t
  match t.kind with
  | .regex e =>
    let raw := ctx.scanner.slice t.start t.stop
    let pattern := ctx.scanner.slice (t.start + 1) e
    let flags := ctx.scanner.slice (e + 1) t.stop
    return .literal (← spanOf t.start t.stop) .null raw (some (pattern, flags)) none
  | _ =>
    let (g, u) ← peekWith .operator
    if isSym u "/" then
      bump u
      let raw := ctx.scanner.slice t.start t.stop
      let pattern := ctx.scanner.slice (t.start + 1) t.stop
      return .literal (← spanOf t.start t.stop) .null raw (some (pattern, "")) none
    else failAt u g

/-- The kind of a method from the words before its name. -/
def methodKind (mods : List String) (key : Node) (computed isStatic : Bool) : String :=
  if mods.contains "get" then "get"
  else if mods.contains "set" then "set"
  else
    match key with
    | .identifier _ "constructor" => if !computed && !isStatic then "constructor" else "method"
    | _ => "method"

/-- Reads a name that a binding, a label or a function may have; `none` if the
token ahead is no such name. -/
def bindingName? : Reader (Option Node) := do
  let t ← peekOperand
  match ← wordOf t with
  | some w =>
    if isReserved w || (← isStrictWord t w) then return none
    else return some (← nameNode t "identifier")
  | none => return none

/-- Reads a binding name or fails at the token ahead. -/
def bindingName : Reader Node := do
  match ← bindingName? with
  | some n => return n
  | none =>
    let (g, t) ← peekWith .operand
    failAt t g

/-- Reads a property name after `.` or `?.`: any word or a private name. -/
def memberName : Reader Node := do
  let (g, t) ← peekWith .operator
  match t.kind with
  | .word => nameNode t "property_identifier"
  | .missing "identifier" => nameNode t "property_identifier"
  | .privateName =>
    bump t
    return .privateIdentifier (← spanOf t.start t.stop) ((← textOf t).drop 1).toString
  | _ => failAt t g

/-- A name that modules import or export: a word or a string, as a name node. -/
def moduleName : Reader Node := do
  let (g, t) ← peekWith .operand
  match t.kind with
  | .word => nameNode t "identifier"
  | .missing "identifier" => nameNode t "identifier"
  | .string _ true _ =>
    bump t
    let lit ← stringLiteral t.start t.stop
    match lit with
    | .literal sp (.string v) .. => return .identifier sp v
    | other => return other
  | _ => failAt t g

/-- The string naming a module, after `from`. -/
def moduleSource : Reader Node := do
  let (g, t) ← peekWith .operand
  match t.kind with
  | .string .. => stringToken t
  | _ => failAt t g

/-- Reads the word `w` or fails at the token ahead. -/
def expectWord (w : String) : Reader Token := do
  let (g, t) ← peekWith .operator
  if (← wordOf t) == some w then bump t; return t else failAt t g

/-- The word `w` where an operand may start, or a failure there. -/
def expectWordOperand (w : String) : Reader Token := do
  let (g, t) ← peekWith .operand
  if (← wordOf t) == some w then bump t; return t else failAt t g

/-- `* as name` in an import. -/
def namespaceImport : Reader Node := do
  let t ← expectWith .operand "*"
  let _ ← expectWord "as"
  let local_ ← bindingName
  return .importNamespaceSpecifier (← spanOf t.start local_.span.stop.offset) local_

/-- The pieces of a template at the cursor, supplied tokens first. -/
def templateAhead : Reader Token := do
  let ctx ← read
  let c ← get
  let t := ctx.scanner.templatePiece c.pos
  match ctx.inserts[c.used]? with
  | some (anchor, sym) => if anchor = t.start then return ⟨.missing sym, c.pos, c.pos⟩ else return t
  | none => return t

/-- Names of elements: words joined by `.` or `:`. -/
def elementName (fuel : Nat) : Reader Unit := do
  let ctx ← read
  let c ← get
  let g := ctx.scanner.gap .operator c.pos
  let t := ctx.scanner.tagToken g.next
  if t.kind == .word then
    bump t
    match fuel with
    | 0 => return
    | n + 1 =>
      let u ← peek
      if isSym u "." || isSym u ":" then bump u; elementName n
  else failAt t g

/-- The colon after a case.  A supplied one serves only where the case has no
statements, so that the token after it closes the case. -/
def caseColon : Reader Token := do
  let (g, t) ← peekWith .operator
  match t.kind with
  | .punct ":" => bump t; return t
  | .missing ":" =>
    let u ← peekAfter t .operand
    let w ← wordOf u
    if isSym u "\x7d" || w == some "case" || w == some "default" then bump t; return t
    else failAt t g
  | _ => failAt t g

/-- Operators that continue an expression but begin no statement. -/
def continuingOperators : List String :=
  [".", "?.", "=", ",", "?", "*", "%", "**", "==", "!=", "===", "!==", "<=", ">=", ">",
   ">>", ">>>", "<<", "&", "&&", "|", "||", "^", "??", "+=", "-=", "*=", "%=", "**=",
   "<<=", ">>=", ">>>=", "&=", "|=", "^=", "&&=", "||=", "??="]

/-- Whether a token continues an expression but begins no statement.  After a
form that reads as a declaration or a block and as an expression alike, such a
token leaves only the expression: `class A {}.x` is a member of a class
expression.  A `.` before a digit begins a number, which begins a statement. -/
def continuesOnly (t : Token) : Reader Bool := do
  match t.kind with
  | .punct p =>
    if p == "." then return !(← read).scanner.charIs (t.start + 1) Char.isDigit
    else return continuingOperators.contains p
  | .word =>
    let w ← textOf t
    return w == "in" || w == "instanceof"
  | _ => return false

/-- Whether a statement that begins with the brace `t` may be an object as well as
a block.  The brace holds a key followed by `:` or `(`, a key that is no name, a
computed key, a spread, a generator method or an accessor; or it is empty and
the token after it continues an expression.  A name followed by `,` or `}`, or
an empty pair of braces before a token that may begin a statement, is a block
only.  Where both readings hold, the object is the one kept. -/
def objectMayLead (t : Token) : Reader Bool := do
  let u ← peekAfter t .operand
  match u.kind with
  | .punct "\x7d" => continuesOnly (← peekAfter u .operator)
  | .punct "[" | .punct "..." | .punct "*" => return true
  | .string .. | .number =>
    let v ← peekAfter u .operator
    return isSym v ":" || isSym v "("
  | .word =>
    let v ← peekAfter u .operator
    if isSym v ":" || isSym v "(" then return true
    let w ← textOf u
    return (w == "get" || w == "set" || w == "async") && beginsPropertyName v
  | _ => return false

/-! ## The readers -/

mutual

/-- A statement. -/
def statement : Nat → Reader Node
  | 0 => tooDeep
  | n + 1 => do
    let (g, t) ← peekWith .operand
    match t.kind with
    | .punct "\x7b" =>
      if ← objectMayLead t then orElse (expressionStatement n) (block n) else block n
    | .punct ";" | .missing ";" => bump t; return .emptyStatement (← spanOf t.start t.stop)
    | .punct "@" => do
      decorators n
      let u ← peekOperand
      if (← wordOf u) == some "export" then exportStatement n
      else classDeclaration n
    | .word =>
      let w ← textOf t
      match w with
      | "var" => declaration .var n
      | "const" => declaration .lexicalConst n
      | "let" =>
        let u ← peekAfter t .operand
        let uw ← wordOf u
        let declares := match u.kind with
          | .word => uw != some "in" && uw != some "instanceof"
          | .punct "[" | .punct "\x7b" => true
          | _ => false
        -- a semicolon the gap after `let` supplies ends it as a name
        if declares && !(← suppliedAfter t) then declaration .lexicalLet n
        else expressionStatement n
      | "using" =>
        let u ← peekAfter t .operand
        let uw ← wordOf u
        if u.kind == .word && !(uw.map isReserved).getD false && uw != some "in" then
          -- the fault refuses the tree, so the kind the declaration is read with is never seen
          fault (.unsupported "using_declaration" t.start)
          declaration .lexicalConst n
        else expressionStatement n
      | "function" =>
        let u ← peekAfter t .operand
        let named := match u.kind with
          | .word => true
          | .punct "*" => true
          | _ => false
        if named then unlessContinued n (functionDeclaration n) else expressionStatement n
      | "async" =>
        let u ← peekAfter t .operand
        if (← wordOf u) == some "function" && !(← suppliedAfter t) then
          unlessContinued n (functionDeclaration n)
        else expressionStatement n
      | "class" =>
        let u ← peekAfter t .operand
        if u.kind == .word && (← wordOf u) != some "extends" then
          unlessContinued n (classDeclaration n)
        else expressionStatement n
      | "if" => ifStatement n
      | "for" => forStatement n
      | "while" => do
        bump t
        let test ← parenthesized n
        let body ← statement n
        return .whileStatement (← spanOf t.start body.span.stop.offset) test body
      | "do" => do
        bump t
        let body ← statement n
        let _ ← expectWord "while"
        let test ← parenthesized n
        let close ← here
        let stop ← match ← supplied with
          | some p => pure p
          | none => do
            match ← eat ";" with
            | some s => pure s.stop
            | none => pure close
        return .doWhileStatement (← spanOf t.start stop) body test
      | "try" => tryStatement n
      | "switch" => switchStatement n
      | "return" => do
        bump t
        let arg ← match ← supplied with
          | some _ => pure none
          | none => do
            if ← sees ";" then pure none
            else pure (some (← asExpr (← expression false true n)))
        let stop ← expressionsEnd
        noteReturn t.start
        return .returnStatement (← spanOf t.start stop) arg
      | "break" | "continue" => do
        bump t
        let label ← match ← supplied with
          | some _ => pure none
          | none => do
            let u ← peek
            if u.kind == .word || isSuppliedName u then bindingName? else pure none
        let stop ← semicolon
        let sp ← spanOf t.start stop
        return if w == "break" then .breakStatement sp label else .continueStatement sp label
      | "throw" => do
        bump t
        let arg ← asExpr (← expression false true n)
        let stop ← expressionsEnd
        return .throwStatement (← spanOf t.start stop) arg
      | "debugger" => do
        bump t
        let stop ← semicolon
        return .debuggerStatement (← spanOf t.start stop)
      | "with" => do
        bump t
        let obj ← parenthesized n
        let body ← statement n
        return .withStatement (← spanOf t.start body.span.stop.offset) obj body
      | "import" =>
        let u ← peekAfter t .operator
        if isSym u "(" || isSym u "." then expressionStatement n else importStatement n
      | "export" => exportStatement n
      | _ =>
        let u ← peekAfter t .operator
        let frozen ← isFrozen t.stop
        if u.kind == .punct ":" && !frozen && w != "yield" &&
            (!isReserved w || looseWords.contains w) then
          let label ← nameNode t "statement_identifier"
          bump u
          let body ← statement n
          return .labeledStatement (← spanOf t.start body.span.stop.offset) label body
        else expressionStatement n
    | _ =>
      let _ := g
      expressionStatement n
termination_by structural fuel => fuel

/-- A declaration read by `decl`, unless the token after it continues an
expression: the same text is then an expression statement. -/
def unlessContinued : Nat → Reader Node → Reader Node
  | 0, _ => tooDeep
  | n + 1, decl => do
    let saved ← get
    let d ← decl
    if ← continuesOnly (← peek) then
      set saved
      expressionStatement n
    else return d
termination_by structural fuel => fuel

/-- Statements up to a closing brace or the end of the text. -/
def statementsUntilClose : Nat → List Node → Reader (List Node)
  | 0, _ => tooDeep
  | n + 1, acc => do
    let t ← peekOperand
    match t.kind with
    | .eof => return acc.reverse
    | .punct "\x7d" | .missing "\x7d" => return acc.reverse
    | _ =>
      let s ← statement n
      statementsUntilClose n (s :: acc)
termination_by structural fuel _ => fuel

/-- Statements up to `case`, `default`, a closing brace or the end. -/
def caseBody : Nat → List Node → Reader (List Node)
  | 0, _ => tooDeep
  | n + 1, acc => do
    let t ← peekOperand
    match t.kind with
    | .eof => return acc.reverse
    | .punct "\x7d" | .missing "\x7d" => return acc.reverse
    | .word =>
      let w ← textOf t
      if w == "case" || w == "default" then return acc.reverse
      else
        let s ← statement n
        caseBody n (s :: acc)
    | _ =>
      let s ← statement n
      caseBody n (s :: acc)
termination_by structural fuel _ => fuel

/-- A block `{ … }`. -/
def block : Nat → Reader Node
  | 0 => tooDeep
  | n + 1 => do
    let o ← expectWith .operand "\x7b"
    let body ← statementsUntilClose n []
    let c ← closeList .operand
    return .blockStatement (← spanOf o.start c.stop) body
termination_by structural fuel => fuel

/-- A function body: a block where `return` belongs. -/
def functionBody : Nat → Reader Node
  | 0 => tooDeep
  | n + 1 => inside true (block n)
termination_by structural fuel => fuel

/-- An expression in parentheses, as after `if` and `while`. -/
def parenthesized : Nat → Reader Node
  | 0 => tooDeep
  | n + 1 => do
    let _ ← expectWith .operator "("
    let e ← asExpr (← expression false false n)
    let _ ← expect ")"
    return e
termination_by structural fuel => fuel

/-- Decorators before a class; the tree has no shape for them. -/
def decorators : Nat → Reader Unit
  | 0 => tooDeep
  | n + 1 => do
    let t ← peekOperand
    if isSym t "@" then
      bump t
      fault (.unsupported "decorator" t.start)
      let _ ← bindingName
      decoratorRest n
      decorators n
termination_by structural fuel => fuel

/-- The rest of a decorator: members and one call. -/
def decoratorRest : Nat → Reader Unit
  | 0 => tooDeep
  | n + 1 => do
    let t ← peek
    if isSym t "." then
      bump t
      let _ ← memberName
      decoratorRest n
    else if isSym t "(" then
      let _ ← arguments n
termination_by structural fuel => fuel

/-- A declaration of the kind its keyword gives, with its semicolon. -/
def declaration (kind : DeclarationKind) : Nat → Reader Node
  | 0 => tooDeep
  | n + 1 => do
    let t ← peekOperand
    bump t
    let decls ← declarators n []
    let stop ← semicolon
    return .variableDeclaration (← spanOf t.start stop) decls kind
termination_by structural fuel => fuel

/-- Declarators separated by commas. -/
def declarators : Nat → List Node → Reader (List Node)
  | 0, _ => tooDeep
  | n + 1, acc => do
    let d ← declarator false n
    match ← eat "," with
    | some _ => declarators n (d :: acc)
    | none => return (d :: acc).reverse
termination_by structural fuel _ => fuel

/-- A declarator: a binding and an optional initializer. -/
def declarator (noIn : Bool) : Nat → Reader Node
  | 0 => tooDeep
  | n + 1 => do
    let target ← bindingTarget n
    match ← eat "=" with
    | some _ =>
      let o ← assign noIn true n
      let init ← asExpr o
      return .variableDeclarator (← spanOf target.span.start.offset o.stop) target (some init)
    | none => return .variableDeclarator target.span target none
termination_by structural fuel => fuel

/-- A name or a destructuring pattern that a declaration binds. -/
def bindingTarget : Nat → Reader Node
  | 0 => tooDeep
  | n + 1 => do
    let (g, t) ← peekWith .operand
    if isSym t "[" || isSym t "\x7b" then
      let o ← if isSym t "[" then arrayCover n else objectCover n
      match o.target with
      | some p => return p
      | none =>
        let (g', u) ← peekWith .operator
        failAt u g'
    else
      match ← bindingName? with
      | some x => return x
      | none => failAt t g
termination_by structural fuel => fuel

/-- A function declaration, from `async` or `function`. -/
def functionDeclaration : Nat → Reader Node
  | 0 => tooDeep
  | n + 1 => do
    let t ← peekOperand
    let isAsync := (← wordOf t) == some "async"
    if isAsync then bump t
    let _ ← expectWord "function"
    let gen ← eat "*"
    let ident ← bindingName
    let (ps, _) ← params n
    let body ← functionBody n
    return .functionDeclaration (← spanOf t.start body.span.stop.offset) (some ident) ps body
      gen.isSome isAsync
termination_by structural fuel => fuel

/-- A function expression, from `async` or `function`. -/
def functionExpression : Nat → Reader Operand
  | 0 => tooDeep
  | n + 1 => do
    let t ← peekOperand
    let isAsync := (← wordOf t) == some "async"
    if isAsync then bump t
    let _ ← expectWord "function"
    let gen ← eat "*"
    let ident ← if ← sees "(" then pure none else some <$> bindingName
    let (ps, _) ← params n
    let body ← functionBody n
    return .plain (.functionExpression (← spanOf t.start body.span.stop.offset) ident ps body
      gen.isSome isAsync)
termination_by structural fuel => fuel

/-- Formal parameters in parentheses, and where the opening parenthesis stands. -/
def params : Nat → Reader (List Node × Nat)
  | 0 => tooDeep
  | n + 1 => do
    let o ← expectWith .operator "("
    let ps ← paramList n []
    let _ ← expect ")"
    return (ps, o.start)
termination_by structural fuel => fuel

/-- Parameters separated by commas, a trailing comma allowed. -/
def paramList : Nat → List Node → Reader (List Node)
  | 0, _ => tooDeep
  | n + 1, acc => do
    let t ← peekOperand
    if isSym t ")" then return acc.reverse
    let p ← param n
    match ← eat "," with
    | some _ => paramList n (p :: acc)
    | none => return (p :: acc).reverse
termination_by structural fuel _ => fuel

/-- One parameter: a pattern, with a default or after `...`. -/
def param : Nat → Reader Node
  | 0 => tooDeep
  | n + 1 => do
    let (g, t) ← peekWith .operand
    if isSym t "..." then
      bump t
      let o ← updateOperand false n
      match o.target with
      | some p => return .restElement (← spanOf t.start p.span.stop.offset) p
      | none => let (g', u) ← peekWith .operator; failAt u g'
    else
      let w ← wordOf t
      let fits := match t.kind with
        | .word => !(w.map isReserved).getD true || (w.map looseWords.contains).getD false
        | .punct "[" | .punct "\x7b" => true
        | .missing "identifier" => true
        | _ => false
      if !fits then failAt t g
      let o ← assign false false n
      match o.element with
      | some p => return p
      | none => let (g', u) ← peekWith .operator; failAt u g'
termination_by structural fuel => fuel

/-- A class declaration. -/
def classDeclaration : Nat → Reader Node
  | 0 => tooDeep
  | n + 1 => do
    let t ← expectWordOperand "class"
    let ident ← bindingName
    let (superClass, body) ← classTail n
    return .classDeclaration (← spanOf t.start body.span.stop.offset) (some ident) superClass body
termination_by structural fuel => fuel

/-- A class expression. -/
def classExpression : Nat → Reader Operand
  | 0 => tooDeep
  | n + 1 => do
    let t ← expectWordOperand "class"
    let u ← peek
    let ident ← if u.kind == .word && (← wordOf u) != some "extends" then some <$> bindingName
      else pure none
    let (superClass, body) ← classTail n
    return .plain (.classExpression (← spanOf t.start body.span.stop.offset) ident superClass body)
termination_by structural fuel => fuel

/-- The heritage and the body of a class. -/
def classTail : Nat → Reader (Option Node × Node)
  | 0 => tooDeep
  | n + 1 => do
    let superClass ← if ← atWord "extends" then do
        let t ← peek
        bump t
        pure (some (← asExpr (← assign false false n)))
      else pure none
    let o ← expectWith .operator "\x7b"
    let members ← classMembers n []
    let c ← closeList .operator
    return (superClass, .classBody (← spanOf o.start c.stop) members)
termination_by structural fuel => fuel

/-- The members of a class body. -/
def classMembers : Nat → List Node → Reader (List Node)
  | 0, _ => tooDeep
  | n + 1, acc => do
    let t ← peek
    match t.kind with
    | .punct "\x7d" | .missing "\x7d" | .eof => return acc.reverse
    | .punct ";" => bump t; classMembers n acc
    | _ =>
      let m ← classMember n
      classMembers n (m :: acc)
termination_by structural fuel _ => fuel

/-- One member of a class: a method, a field or a static block. -/
def classMember : Nat → Reader Node
  | 0 => tooDeep
  | n + 1 => do
    decorators n
    let t ← peek
    let w ← wordOf t
    -- a static block
    let block_ ← if w == some "static" then isSym <$> peekAfter t .operator <*> pure "\x7b"
      else pure false
    if block_ then
      bump t
      let _ ← expect "\x7b"
      let body ← inside true (statementsUntilClose n [])
      let c ← closeList .operator
      return .staticBlock (← spanOf t.start c.stop) body
    let isStatic ← if w == some "static" then do
        let u ← peekAfter t .operator
        if beginsPropertyName u || isSym u "*" then bump t; pure true else pure false
      else pure false
    let mods ← modifiers n []
    let (key, computed) ← propertyName n
    let keyEnd ← here
    if mods.isEmpty && !(← sees "(") then
      -- a field
      let value ← match ← eat "=" with
        | some _ => do pure (some (← asExpr (← inside true (assign false true n))))
        | none => pure none
      let stop := match value with
        | some v => v.span.stop.offset
        | none => keyEnd
      let node := Node.propertyDefinition (← spanOf t.start stop) key computed value isStatic
      let _ ← semicolon
      return node
    else
      let fn ← methodValue n (mods.contains "*") (mods.contains "async")
      let kind := methodKind mods key computed isStatic
      return .methodDefinition (← spanOf t.start fn.span.stop.offset) key computed fn kind isStatic
termination_by structural fuel => fuel

/-- The words `async`, `get`, `set` and `*` before a method's name. -/
def modifiers : Nat → List String → Reader (List String)
  | 0, _ => tooDeep
  | n + 1, acc => do
    let t ← peek
    if isSym t "*" then bump t; return ("*" :: acc)
    match ← wordOf t with
    | some w =>
      if (w == "async" && !acc.contains "async") || ((w == "get" || w == "set") && acc.isEmpty) then
        let u ← peekAfter t .operator
        if beginsPropertyName u || (w == "async" && isSym u "*") then
          bump t
          modifiers n (w :: acc)
        else return acc
      else return acc
    | none => return acc
termination_by structural fuel _ => fuel

/-- A property name: a word, a string, a number, a private name or `[expr]`;
with whether it is computed. -/
def propertyName : Nat → Reader (Node × Bool)
  | 0 => tooDeep
  | n + 1 => do
    let (g, t) ← peekWith .operator
    match t.kind with
    | .word => return (← nameNode t "property_identifier", false)
    | .missing "identifier" => return (← nameNode t "property_identifier", false)
    | .privateName =>
      bump t
      return (.privateIdentifier (← spanOf t.start t.stop) ((← textOf t).drop 1).toString, false)
    | .string .. => return (← stringToken t, false)
    | .number => return (← numberLiteral t, false)
    | .punct "[" =>
      bump t
      let e ← asExpr (← assign false false n)
      let _ ← expect "]"
      return (e, true)
    | _ => failAt t g
termination_by structural fuel => fuel

/-- A method's parameters and body, as a function whose span runs from its
parameters to the end of its body. -/
def methodValue : Nat → Bool → Bool → Reader Node
  | 0, _, _ => tooDeep
  | n + 1, gen, isAsync => do
    let (ps, open_) ← params n
    let body ← functionBody n
    return .functionExpression (← byteSpanOf open_ body.span.stop.offset) none ps body gen isAsync
termination_by structural fuel _ _ => fuel

/-- An `if` statement. -/
def ifStatement : Nat → Reader Node
  | 0 => tooDeep
  | n + 1 => do
    let t ← expectWordOperand "if"
    let test ← parenthesized n
    let cons ← statement n
    if ← atWord "else" then
      let e ← peek
      bump e
      let alt ← statement n
      return .ifStatement (← spanOf t.start alt.span.stop.offset) test cons (some alt)
    else return .ifStatement (← spanOf t.start cons.span.stop.offset) test cons none
termination_by structural fuel => fuel

/-- A `for` statement of any of its forms. -/
def forStatement : Nat → Reader Node
  | 0 => tooDeep
  | n + 1 => do
    let t ← expectWordOperand "for"
    let isAwait ← atWord "await"
    if isAwait then
      let a ← peek
      bump a
    let _ ← expect "("
    let (g, h) ← peekWith .operand
    let hw ← wordOf h
    -- the head of `for await` is a target, which no keyword begins
    if let some w := hw then
      if isAwait && (← isStrictWord h w) then failAt h g
    let declares : Option DeclarationKind ← match hw with
      | some "var" => pure (some .var)
      | some "const" => pure (some .lexicalConst)
      | some "let" => do
        let u ← peekAfter h .operand
        let uw ← wordOf u
        pure (match u.kind with
          | .word =>
            if uw != some "in" && uw != some "of" && uw != some "instanceof" then some .lexicalLet
            else none
          | .punct "[" | .punct "\x7b" => some .lexicalLet
          | _ => none)
      | _ => pure none
    if let some kind := declares then
      bump h
      let left ← bindingTarget n
      let afterLeft ← get
      let init ← if kind == .var then do
          match ← eat "=" with
          | some _ => pure (some (← assign true false n))
          | none => pure none
        else pure none
      let w ← wordAhead
      if (w == some "in" || w == some "of") then
        let declSpan ← byteSpanOf h.start left.span.stop.offset
        let decl := Node.variableDeclaration declSpan [.variableDeclarator left.span left none] kind
        -- `var a = b in c;` heads a three-part loop when no `for … in` reads
        orElseFirst (forInRest n t.start decl) (do
          if init.isNone then let (g', u') ← peekWith .operator; failAt u' g'
          set afterLeft
          let _ ← expectInner "="
          let initOp ← assign false false n
          let initNode ← asExpr initOp
          let first := Node.variableDeclarator (← spanOf left.span.start.offset initOp.stop) left
            (some initNode)
          let more ← if (← eat ",").isSome then declarators n [] else pure []
          let stop ← semicolon
          let decl := Node.variableDeclaration (← spanOf h.start stop) (first :: more) kind
          forLoopRest n t.start (some decl))
      else
        -- an ordinary declaration heads a three-part loop
        let initOp ← match init with
          | some o => pure (some o)
          | none => do
            match ← eat "=" with
            | some _ => pure (some (← assign false false n))
            | none => pure none
        let initNode ← initOp.mapM asExpr
        let stop := (initOp.map Operand.stop).getD left.span.stop.offset
        let first := Node.variableDeclarator (← spanOf left.span.start.offset stop) left initNode
        let more ← if (← eat ",").isSome then declarators n [] else pure []
        let stop ← semicolon
        let decl := Node.variableDeclaration (← spanOf h.start stop) (first :: more) kind
        forLoopRest n t.start (some decl)
    else if isSym h ";" then
      bump h
      forLoopRest n t.start none
    else
      let head : Reader Node := do
        let e ← expression true false n
        let w ← wordAhead
        if (w == some "in" || w == some "of") then
          let left ← match e.target, e.parens with
            | some p, _ => pure p
            | none, true => pure e.node
            | none, false => do let (g', u) ← peekWith .operator; failAt u g'
          forInRest n t.start left
        else
          let init ← asExpr e
          let _ ← expectInner ";"
          let _ := g
          forLoopRest n t.start (some init)
      -- `x = a in b;` heads a three-part loop when no `for … in` reads
      orElseFirst head (do
        let init ← asExpr (← expression false false n)
        let _ ← expectInner ";"
        forLoopRest n t.start (some init))
termination_by structural fuel => fuel

/-- The rest of a `for … in` or `for … of` statement, from its keyword. -/
def forInRest : Nat → Nat → Node → Reader Node
  | 0, _, _ => tooDeep
  | n + 1, start, left => do
    let k ← peek
    let isOf := (← wordOf k) == some "of"
    bump k
    let right ← asExpr (← expression false false n)
    let _ ← expectInner ")"
    let body ← statement n
    let sp ← spanOf start body.span.stop.offset
    return if isOf then .forOfStatement sp left right body else .forInStatement sp left right body
termination_by structural fuel _ _ => fuel

/-- The test, update and body of a three-part `for`, after its first `;`. -/
def forLoopRest : Nat → Nat → Option Node → Reader Node
  | 0, _, _ => tooDeep
  | n + 1, start, init => do
    let test ← if ← sees ";" then pure none else some <$> asExpr (← expression false false n)
    let _ ← expectInner ";"
    let update ← if ← sees ")" then pure none else some <$> asExpr (← expression false false n)
    let _ ← expectInner ")"
    let body ← statement n
    return .forStatement (← spanOf start body.span.stop.offset) init test update body
termination_by structural fuel _ _ => fuel

/-- A `try` statement. -/
def tryStatement : Nat → Reader Node
  | 0 => tooDeep
  | n + 1 => do
    let t ← expectWordOperand "try"
    let blk ← block n
    let handler ← if ← atWord "catch" then do
        let c ← peek
        bump c
        let param ← if (← eat "(").isSome then do
            let p ← bindingTarget n
            let _ ← expectInner ")"
            pure (some p)
          else pure none
        let body ← block n
        pure (some (Node.catchClause (← spanOf c.start body.span.stop.offset) param body))
      else pure none
    let finalizer ← if ← atWord "finally" then do
        let f ← peek
        bump f
        pure (some (← block n))
      else pure none
    let stop := match finalizer, handler with
      | some f, _ => f.span.stop.offset
      | none, some h => h.span.stop.offset
      | none, none => blk.span.stop.offset
    return .tryStatement (← spanOf t.start stop) blk handler finalizer
termination_by structural fuel => fuel

/-- A `switch` statement. -/
def switchStatement : Nat → Reader Node
  | 0 => tooDeep
  | n + 1 => do
    let t ← expectWordOperand "switch"
    let disc ← parenthesized n
    let _ ← expect "\x7b"
    let cases ← switchCases n []
    let c ← expectWith .operand "\x7d"
    return .switchStatement (← spanOf t.start c.stop) disc cases
termination_by structural fuel => fuel

/-- The cases of a `switch`. -/
def switchCases : Nat → List Node → Reader (List Node)
  | 0, _ => tooDeep
  | n + 1, acc => do
    let (g, t) ← peekWith .operand
    match ← wordOf t with
    | some "case" =>
      bump t
      let test ← asExpr (← expression false false n)
      let colon ← caseColon
      let body ← caseBody n []
      let stop := (body.getLast?.map fun s => s.span.stop.offset).getD colon.stop
      switchCases n (.switchCase (← spanOf t.start stop) (some test) body :: acc)
    | some "default" =>
      bump t
      let colon ← caseColon
      let body ← caseBody n []
      let stop := (body.getLast?.map fun s => s.span.stop.offset).getD colon.stop
      switchCases n (.switchCase (← spanOf t.start stop) none body :: acc)
    | _ =>
      -- at the end of the text, a case's statements take a semicolon first
      if isSym t "\x7d" then return acc.reverse
      else failLacking t g (some (if acc.isEmpty then "\x7d" else ";"))
termination_by structural fuel _ => fuel

/-- An `import` statement. -/
def importStatement : Nat → Reader Node
  | 0 => tooDeep
  | n + 1 => do
    let t ← expectWordOperand "import"
    let u ← peekOperand
    let specs ← match u.kind with
      | .string .. => pure []
      | _ => do
        let specs ← importClause n
        let _ ← expectWord "from"
        pure specs
    let source ← moduleSource
    if ← atWord "with" then
      let w ← peek
      bump w
      let _ ← objectCover n
    let stop ← semicolon
    return .importDeclaration (← spanOf t.start stop) specs source
termination_by structural fuel => fuel

/-- What an `import` brings in: a default name, a namespace, named imports. -/
def importClause : Nat → Reader (List Node)
  | 0 => tooDeep
  | n + 1 => do
    let t ← peekOperand
    if isSym t "*" then return [← namespaceImport]
    else if isSym t "\x7b" then namedImports n
    else
      let local_ ← bindingName
      let first := Node.importDefaultSpecifier local_.span local_
      if (← eat ",").isSome then
        let u ← peekOperand
        if isSym u "*" then return [first, ← namespaceImport]
        else return first :: (← namedImports n)
      else return [first]
termination_by structural fuel => fuel

/-- `{ a, b as c }` in an import. -/
def namedImports : Nat → Reader (List Node)
  | 0 => tooDeep
  | n + 1 => do
    let _ ← expectWith .operand "\x7b"
    let specs ← importSpecifiers n []
    let _ ← expect "\x7d"
    return specs
termination_by structural fuel => fuel

/-- Import specifiers separated by commas. -/
def importSpecifiers : Nat → List Node → Reader (List Node)
  | 0, _ => tooDeep
  | n + 1, acc => do
    if ← sees "\x7d" then return acc.reverse
    let imported ← moduleName
    let spec ← if ← atWord "as" then do
        let a ← peek
        bump a
        let local_ ← bindingName
        let sp ← spanOf imported.span.start.offset local_.span.stop.offset
        pure (Node.importSpecifier sp imported local_)
      else pure (Node.importSpecifier imported.span imported imported)
    match ← eat "," with
    | some _ => importSpecifiers n (spec :: acc)
    | none => return (spec :: acc).reverse
termination_by structural fuel _ => fuel

/-- An `export` statement. -/
def exportStatement : Nat → Reader Node
  | 0 => tooDeep
  | n + 1 => do
    let t ← expectWordOperand "export"
    let (g, u) ← peekWith .operand
    if isSym u "*" then
      bump u
      let exported ← if ← atWord "as" then do
          let a ← peek
          bump a
          pure (some (← moduleName))
        else pure none
      let _ ← expectWord "from"
      let source ← moduleSource
      let stop ← semicolon
      return .exportAllDeclaration (← spanOf t.start stop) source exported
    else if isSym u "\x7b" then
      bump u
      let specs ← exportSpecifiers n []
      let _ ← expect "\x7d"
      let source ← if ← atWord "from" then do
          let f ← peek
          bump f
          pure (some (← moduleSource))
        else pure none
      let stop ← semicolon
      return .exportNamedDeclaration (← spanOf t.start stop) none specs source
    else
      match ← wordOf u with
      | some "default" =>
        bump u
        let v ← peekOperand
        let vw ← wordOf v
        let after ← peekAfter v .operand
        let aw ← wordOf after
        let isDecl :=
          (vw == some "function" && (after.kind == .word || isSym after "*")) ||
          (vw == some "async" && aw == some "function" && !(← suppliedAfter v)) ||
          (vw == some "class" && after.kind == .word && aw != some "extends")
        if isDecl then
          match ← statement n with
          | .expressionStatement sp e =>
            return .exportDefaultDeclaration (← spanOf t.start sp.stop.offset) e
          | d => return .exportDefaultDeclaration (← spanOf t.start d.span.stop.offset) d
        else
          let e ← asExpr (← assign false true n)
          let stop ← semicolon
          return .exportDefaultDeclaration (← spanOf t.start stop) e
      | some w =>
        if ["var", "let", "const", "function", "async", "class"].contains w then
          let after ← peekAfter u .operand
          let aw ← wordOf after
          let d ← if w == "class" && after.kind == .word && aw != some "extends" then
              classDeclaration n
            else if w == "function" && (after.kind == .word || isSym after "*") then
              functionDeclaration n
            else if w == "async" && aw == some "function" && !(← suppliedAfter u) then
              functionDeclaration n
            else statement n
          return .exportNamedDeclaration (← spanOf t.start d.span.stop.offset) (some d) [] none
        else failAt u g
      | none =>
        if isSym u "@" then
          let d ← statement n
          return .exportNamedDeclaration (← spanOf t.start d.span.stop.offset) (some d) [] none
        else failAt u g
termination_by structural fuel => fuel

/-- Export specifiers separated by commas. -/
def exportSpecifiers : Nat → List Node → Reader (List Node)
  | 0, _ => tooDeep
  | n + 1, acc => do
    if ← sees "\x7d" then return acc.reverse
    let local_ ← moduleName
    let spec ← if ← atWord "as" then do
        let a ← peek
        bump a
        let exported ← moduleName
        pure (Node.exportSpecifier (← spanOf local_.span.start.offset exported.span.stop.offset)
          local_ exported)
      else pure (Node.exportSpecifier local_.span local_ local_)
    match ← eat "," with
    | some _ => exportSpecifiers n (spec :: acc)
    | none => return (spec :: acc).reverse
termination_by structural fuel _ => fuel

/-- An expression statement. -/
def expressionStatement : Nat → Reader Node
  | 0 => tooDeep
  | n + 1 => do
    let o ← expression false true n
    let e ← asExpr o
    let stop ← expressionsEnd
    return .expressionStatement (← spanOf o.start stop) e
termination_by structural fuel => fuel

/-- Expressions separated by commas. -/
def expression (noIn asiOk : Bool) : Nat → Reader Operand
  | 0 => tooDeep
  | n + 1 => do
    let first ← assign noIn asiOk n
    if ← sees "," then
      let x ← asExpr first
      let (rest, stop) ← sequenceRest noIn asiOk n first.stop []
      return .plain (.sequenceExpression (← spanOf first.start stop) (x :: rest))
    else return first
termination_by structural fuel => fuel

/-- The expressions after the commas of a sequence, and where the last one stops. -/
def sequenceRest (noIn asiOk : Bool) : Nat → Nat → List Node → Reader (List Node × Nat)
  | 0, _, _ => tooDeep
  | n + 1, stop, acc => do
    match ← eat "," with
    | some _ =>
      let o ← assign noIn asiOk n
      let x ← asExpr o
      sequenceRest noIn asiOk n o.stop (x :: acc)
    | none => return (acc.reverse, stop)
termination_by structural fuel _ _ => fuel

/-- An assignment, an arrow function, a `yield` or a conditional. -/
def assign (noIn asiOk : Bool) : Nat → Reader Operand
  | 0 => tooDeep
  | n + 1 => do
    let t ← peekOperand
    if (← wordOf t) == some "yield" then
      let u ← peekAfter t .operand
      let isKeyword := beginsOperand u (← wordOf u) || isSym u "*" || isSym u ")" ||
        isSym u "]" || isSym u "\x7d" || isSym u "," || isSym u ";" || isSym u ":" || u.kind == .eof
      if isKeyword then return ← yieldExpression noIn asiOk n
    let left ← conditional noIn asiOk n
    if asiOk && (← supplied).isSome then return left
    let (g, op) ← peekWith .operator
    match op.kind with
    | .punct "=" =>
      let lhs ← if left.parens then pure left.node else
        match left.target with
        | some p => pure p
        | none => failAt op g
      bump op
      let r ← assign noIn asiOk n
      let right ← asExpr r
      let sp ← spanOf left.start r.stop
      let element := if left.parens then none else
        left.target.map fun p => Node.assignmentPattern sp p right
      return { node := .assignmentExpression sp "=" lhs right, element := element }
    | .punct p =>
      if compoundAssignments.contains p then
        let ok := left.parens || (match left.node with
          | .identifier .. | .memberExpression .. | .chainExpression .. => left.target.isSome
          | _ => false)
        if !ok then failAt op g
        bump op
        let r ← assign noIn asiOk n
        let right ← asExpr r
        let sp ← spanOf left.start r.stop
        return .plain (.assignmentExpression sp p left.node right)
      else return left
    | _ => return left
termination_by structural fuel => fuel

/-- A `yield` expression. -/
def yieldExpression (noIn asiOk : Bool) : Nat → Reader Operand
  | 0 => tooDeep
  | n + 1 => do
    let t ← peekOperand
    bump t
    if asiOk && (← supplied).isSome then
      return .plain (.yieldExpression (← spanOf t.start t.stop) none false)
    let u ← peekOperand
    if isSym u "*" then
      bump u
      let a ← assign noIn asiOk n
      let arg ← asExpr a
      return .plain (.yieldExpression (← spanOf t.start a.stop) (some arg) true)
    else if beginsOperand u (← wordOf u) then
      let a ← assign noIn asiOk n
      let arg ← asExpr a
      return .plain (.yieldExpression (← spanOf t.start a.stop) (some arg) false)
    else return .plain (.yieldExpression (← spanOf t.start t.stop) none false)
termination_by structural fuel => fuel

/-- A conditional `a ? b : c`, or what binds tighter. -/
def conditional (noIn asiOk : Bool) : Nat → Reader Operand
  | 0 => tooDeep
  | n + 1 => do
    let test ← binary 1 noIn asiOk n
    if asiOk && (← supplied).isSome then return test
    let q ← peek
    if isSym q "?" then
      let x ← asExpr test
      bump q
      let cons ← asExpr (← assign false false n)
      let _ ← expectInner ":"
      let a ← assign noIn asiOk n
      let alt ← asExpr a
      return .plain (.conditionalExpression (← spanOf test.start a.stop) x cons alt)
    else return test
termination_by structural fuel => fuel

/-- Binary operators of at least the given power. -/
def binary (minPower : Nat) (noIn asiOk : Bool) : Nat → Reader Operand
  | 0 => tooDeep
  | n + 1 => do
    let left ← unary asiOk n
    binaryLoop minPower noIn asiOk n left
termination_by structural fuel => fuel

/-- Continues a binary expression from its left operand. -/
def binaryLoop (minPower : Nat) (noIn asiOk : Bool) : Nat → Operand → Reader Operand
  | 0, _ => tooDeep
  | n + 1, left => do
    if asiOk && (← supplied).isSome then return left
    let op ← peek
    let text ← match op.kind with
      | .punct p => pure (some p)
      | .word => wordOf op
      | _ => pure none
    match text.bind (binaryPower · noIn) with
    | some (power, right) =>
      if power < minPower then return left
      let x ← asExpr left
      bump op
      let rhs ← binary (if right then power else power + 1) noIn asiOk n
      let y ← asExpr rhs
      let sp ← spanOf left.start rhs.stop
      let o := text.getD ""
      let node := if isLogical o then Node.logicalExpression sp o x y
        else Node.binaryExpression sp o x y
      binaryLoop minPower noIn asiOk n (.plain node)
    | none => return left
termination_by structural fuel _ => fuel

/-- A prefix operator and its operand, `await`, or what binds tighter. -/
def unary (asiOk : Bool) : Nat → Reader Operand
  | 0 => tooDeep
  | n + 1 => do
    let t ← peekOperand
    let w ← wordOf t
    let prefixOp : Option String := match t.kind with
      | .punct p => if ["!", "~", "-", "+"].contains p then some p else none
      | .word => if w == some "typeof" || w == some "void" || w == some "delete" then w else none
      | _ => none
    match prefixOp with
    | some op =>
      bump t
      let a ← unary asiOk n
      let arg ← asExpr a
      return .plain (.unaryExpression (← spanOf t.start a.stop) op arg)
    | none =>
      if isSym t "++" || isSym t "--" then
        bump t
        let a ← unary asiOk n
        let arg ← asExpr a
        let op := if isSym t "++" then "++" else "--"
        return .plain (.updateExpression (← spanOf t.start a.stop) op arg true)
      else if w == some "await" then
        let u ← peekAfter t .operand
        if beginsOperand u (← wordOf u) then
          let awaited : Reader Operand := do
            bump t
            let a ← unary asiOk n
            let arg ← asExpr a
            return .plain (.awaitExpression (← spanOf t.start a.stop) arg)
          if isSym u "(" || isSym u "[" || isSym u "`" then
            -- `await (x)` also reads as a call of a function named `await`; that
            -- reading is kept when both run to the end of the text
            let before ← get
            match ← attempt awaited with
            | .ok a =>
              if ← atTextEnd then
                let after ← get
                set before
                match ← attempt (updateOperand asiOk n) with
                | .ok b =>
                  if ← atTextEnd then return b
                  else
                    set after
                    return a
                | .error _ =>
                  set after
                  return a
              else return a
            | .error e =>
              match ← attempt (updateOperand asiOk n) with
              | .ok b => return b
              | .error _ => throw e
          else awaited
        else updateOperand asiOk n
      else updateOperand asiOk n
termination_by structural fuel => fuel

/-- An operand and a `++` or `--` after it. -/
def updateOperand (asiOk : Bool) : Nat → Reader Operand
  | 0 => tooDeep
  | n + 1 => do
    let o ← lhs asiOk n
    if asiOk && (← supplied).isSome then return o
    let t ← peek
    if isSym t "++" || isSym t "--" then
      let x ← asExpr o
      bump t
      let op := if isSym t "++" then "++" else "--"
      return .plain (.updateExpression (← spanOf o.start t.stop) op x false)
    else return o
termination_by structural fuel => fuel

/-- A primary expression and its member accesses, calls and tagged templates. -/
def lhs (asiOk : Bool) : Nat → Reader Operand
  | 0 => tooDeep
  | n + 1 => do
    let p ← primary asiOk n
    links true asiOk n p (.base p.node)
termination_by structural fuel => fuel

/-- Member accesses, calls and tagged templates after an operand, whose node is the
chain read so far with its links continuing. -/
def links (calls asiOk : Bool) : Nat → Operand → Chain → Reader Operand
  | 0, _, _ => tooDeep
  | n + 1, o, chain => do
    let finish : Reader Operand := do
      let node := chain.toNode false
      let frozen ← isFrozen o.stop
      if frozen then return { o with node := node, target := none, element := none }
      else if chain.closes then
        return { o with node := node,
                        target := o.target.map fun _ => node,
                        element := o.element.map fun _ => node }
      else return o
    if asiOk && (← supplied).isSome then return ← finish
    let (g, t) ← peekWith .operator
    let extend (c : Chain) (assignable : Bool) : Reader Operand :=
      let node := c.toNode true
      links calls asiOk n (if assignable then .assignable node else .plain node) c
    match t.kind with
    | .punct "." =>
      let _ ← asExpr o
      bump t
      let prop ← memberName
      let sp ← spanOf o.start prop.span.stop.offset
      extend (.member sp chain prop false false) true
    | .punct "?." =>
      let _ ← asExpr o
      bump t
      let u ← peek
      if isSym u "(" then
        if !calls then failAt u g
        let (args, stop) ← arguments n
        extend (.call (← spanOf o.start stop) chain args true) false
      else if isSym u "[" then
        bump u
        let idx ← asExpr (← expression false false n)
        let c ← expect "]"
        extend (.member (← spanOf o.start c.stop) chain idx true true) true
      else
        let prop ← memberName
        let sp ← spanOf o.start prop.span.stop.offset
        extend (.member sp chain prop false true) true
    | .punct "[" =>
      let _ ← asExpr o
      bump t
      let idx ← asExpr (← expression false false n)
      let c ← expect "]"
      extend (.member (← spanOf o.start c.stop) chain idx true false) true
    | .punct "(" =>
      if !calls then return ← finish
      let _ ← asExpr o
      let (args, stop) ← arguments n
      extend (.call (← spanOf o.start stop) chain args false) false
    | .punct "`" =>
      let _ ← asExpr o
      let q ← template n
      extend (.tagged (← spanOf o.start q.span.stop.offset) chain q) false
    | _ => finish
termination_by structural fuel _ _ => fuel

/-- Arguments in parentheses, and where the closing one stops. -/
def arguments : Nat → Reader (List Node × Nat)
  | 0 => tooDeep
  | n + 1 => do
    let _ ← expect "("
    let args ← argumentList n []
    let c ← expect ")"
    return (args, c.stop)
termination_by structural fuel => fuel

/-- Arguments separated by commas; empty places are allowed and dropped. -/
def argumentList : Nat → List Node → Reader (List Node)
  | 0, _ => tooDeep
  | n + 1, acc => do
    let t ← peekOperand
    if isSym t ")" then return acc.reverse
    if isSym t "," then bump t; return ← argumentList n acc
    let arg ← if isSym t "..." then do
        bump t
        let a ← assign false false n
        let x ← asExpr a
        pure (Node.spreadElement (← spanOf t.start a.stop) x)
      else do asExpr (← assign false false n)
    match ← eat "," with
    | some _ => argumentList n (arg :: acc)
    | none => return (arg :: acc).reverse
termination_by structural fuel _ => fuel

/-- A primary expression. -/
def primary (asiOk : Bool) : Nat → Reader Operand
  | 0 => tooDeep
  | n + 1 => do
    let (g, t) ← peekWith .operand
    match t.kind with
    | .word =>
      let w ← textOf t
      match w with
      | "this" => bump t; return .plain (.thisExpression (← spanOf t.start t.stop))
      | "super" => bump t; return .plain (.superExpression (← spanOf t.start t.stop))
      | "true" | "false" =>
        bump t
        return .plain (.literal (← spanOf t.start t.stop) (.bool (w == "true")) w none none)
      | "null" => bump t; return .plain (.literal (← spanOf t.start t.stop) .null w none none)
      | "function" => functionExpression n
      | "class" => classExpression n
      | "new" => newExpression n
      | "import" =>
        bump t
        let u ← peek
        if isSym u "." then
          bump u
          let prop ← expectWord "meta"
          let sp ← spanOf t.start prop.stop
          let (m, p) := metaWords ((← read).scanner.slice t.start prop.stop)
          return .plain (.metaProperty sp (.identifier sp m) (.identifier sp p))
        else if isSym u "(" then
          let (args, stop) ← arguments n
          return .plain (.callExpression (← spanOf t.start stop)
            (.importExpression (← spanOf t.start t.stop)) args false)
        else failAt u g
      | "async" =>
        let u ← peekAfter t .operand
        let uw ← wordOf u
        if asiOk && (← suppliedAfter t) then
          bump t; return .assignable (.identifier (← spanOf t.start t.stop) w)
        else if uw == some "function" then functionExpression n
        else if u.kind == .word && !(uw.map isReserved).getD true then
          let v ← peekAfter u .operator
          if isSym v "=>" then
            bump t
            let param ← nameNode u "identifier"
            arrowRest n t.start [param] true asiOk
          else bump t; return .assignable (.identifier (← spanOf t.start t.stop) w)
        else if isSym u "(" then
          bump t
          parenCover n t.start true asiOk
        else bump t; return .assignable (.identifier (← spanOf t.start t.stop) w)
      | _ =>
        if (isReserved w && !looseWords.contains w) || (← isStrictWord t w) then failAt t g
        let u ← peekAfter t .operator
        let frozen ← isFrozen t.stop
        if isSym u "=>" && !frozen && w != "yield" then
          let param ← nameNode t "identifier"
          arrowRest n t.start [param] false asiOk
        else
          bump t
          return .assignable (.identifier (← spanOf t.start t.stop) w)
    | .missing "identifier" =>
      let x ← nameNode t "identifier"
      return .assignable x
    | .number => return .plain (← numberLiteral t)
    | .string .. => return .plain (← stringToken t)
    | .regex _ | .regexOpen => return .plain (← regexToken t)
    | .privateName =>
      -- a private name stands alone only on the left of `in`
      if (← wordOf (← peekAfter t .operator)) != some "in" then failAt t g
      bump t
      return .plain (.privateIdentifier (← spanOf t.start t.stop) ((← textOf t).drop 1).toString)
    | .punct "(" => parenCover n t.start false asiOk
    | .punct "[" => arrayCover n
    | .punct "\x7b" => objectCover n
    | .punct "`" => return .plain (← template n)
    | .punct "<" => element n
    | .punct "@" =>
      decorators n
      classExpression n
    | _ => failAt t g
termination_by structural fuel => fuel

/-- A `new` expression or `new.target`. -/
def newExpression : Nat → Reader Operand
  | 0 => tooDeep
  | n + 1 => do
    let t ← expectWordOperand "new"
    let (g, u) ← peekWith .operator
    if isSym u "." then
      bump u
      let prop ← expectWord "target"
      let sp ← spanOf t.start prop.stop
      let (m, p) := metaWords ((← read).scanner.slice t.start prop.stop)
      return .plain (.metaProperty sp (.identifier sp m) (.identifier sp p))
    let callee ← if (← wordOf (← peekOperand)) == some "new" then newExpression n
      else do
        let p ← primary false n
        links false false n p (.base p.node)
    let x ← asExpr callee
    let _ := g
    if ← sees "(" then
      let (args, stop) ← arguments n
      return .plain (.newExpression (← spanOf t.start stop) x args)
    else return .plain (.newExpression (← spanOf t.start callee.stop) x [])
termination_by structural fuel => fuel

/-- What follows `(`: a parenthesized expression, or the parameters of an arrow. -/
def parenCover : Nat → Nat → Bool → Bool → Reader Operand
  | 0, _, _, _ => tooDeep
  | n + 1, start, isAsync, asiOk => do
    let _ ← expectWith .operand "("
    let (items, trailing) ← coverItems n []
    let close ← expect ")"
    let (g, u) ← peekWith .operator
    if isSym u "=>" then
      let ps ← items.mapM fun (rest, o) => do
        match rest with
        | some dots =>
          match o.target with
          | some p => return Node.restElement (← spanOf dots p.span.stop.offset) p
          | none => failAt u g
        | none =>
          match o.element with
          | some p => return p
          | none => failAt u g
      arrowRest n start ps isAsync asiOk
    else if isAsync then
      -- `async(…)` calls a function named `async`
      let args ← items.mapM fun (rest, o) => do
        let x ← asExpr o
        match rest with
        | some dots => return Node.spreadElement (← spanOf dots x.span.stop.offset) x
        | none => return x
      let here_ ← here
      let callee := Node.identifier (← spanOf start (start + 5)) "async"
      return .plain (.callExpression (← spanOf start here_) callee args false)
    else
      if items.isEmpty || trailing || items.any (·.1.isSome) then failAt u g
      let xs ← items.mapM fun (_, o) => asExpr o
      let outer := some (start, close.stop)
      match xs with
      | [x] => return { node := x, parens := true, extent := outer }
      | _ =>
        let first := (items.head?.map fun (_, o) => o.start).getD start
        let last := (items.getLast?.map fun (_, o) => o.stop).getD start
        return { node := .sequenceExpression (← spanOf first last) xs, parens := true,
                 extent := outer }
termination_by structural fuel _ _ _ => fuel

/-- The items between parentheses, each with where its `...` starts if it has one, and
whether a comma ends them. -/
def coverItems : Nat → List (Option Nat × Operand) →
    Reader (List (Option Nat × Operand) × Bool)
  | 0, _ => tooDeep
  | n + 1, acc => do
    let t ← peekOperand
    if isSym t ")" then return (acc.reverse, !acc.isEmpty)
    let item ← if isSym t "..." then do
        bump t
        pure (some t.start, ← assign false false n)
      else do pure (none, ← assign false false n)
    match ← eat "," with
    | some _ => coverItems n (item :: acc)
    | none => return ((item :: acc).reverse, false)
termination_by structural fuel _ => fuel

/-- The rest of an arrow function after its parameters: `=>` and the body. -/
def arrowRest : Nat → Nat → List Node → Bool → Bool → Reader Operand
  | 0, _, _, _, _ => tooDeep
  | n + 1, start, ps, isAsync, asiOk => do
    let _ ← expect "=>"
    let t ← peekOperand
    if isSym t "\x7b" then
      let body ← functionBody n
      return .plain (.arrowFunctionExpression (← spanOf start body.span.stop.offset) ps body false
        isAsync)
    else
      let b ← inside true (assign false asiOk n)
      let body ← asExpr b
      return .plain (.arrowFunctionExpression (← spanOf start b.stop) ps body true isAsync)
termination_by structural fuel _ _ _ _ => fuel

/-- An array literal, also read as an array pattern. -/
def arrayCover : Nat → Reader Operand
  | 0 => tooDeep
  | n + 1 => do
    let o ← expectWith .operand "["
    let items ← arrayItems n []
    let c ← expect "]"
    let sp ← spanOf o.start c.stop
    let exprs := elementsOf (items.map fun (i, _, _) => i)
    let patterns := collect (items.map fun (i, p, _) => match i with
      | .comma => some ArrayItem.comma
      | .element _ => p.map ArrayItem.element)
    let isExpr := items.all fun (_, _, e) => e
    let pattern := patterns.map fun ps => Node.arrayPattern sp (elementsOf ps)
    return { node := .arrayExpression sp exprs, target := pattern, element := pattern,
             isExpr := isExpr }
termination_by structural fuel => fuel

/-- The items of an array: commas and elements, each element with its pattern
form and whether it is an expression. -/
def arrayItems : Nat → List (ArrayItem × Option Node × Bool) →
    Reader (List (ArrayItem × Option Node × Bool))
  | 0, _ => tooDeep
  | n + 1, acc => do
    let t ← peekOperand
    if isSym t "]" then return acc.reverse
    if isSym t "," then bump t; return ← arrayItems n ((.comma, none, true) :: acc)
    let item ← if isSym t "..." then do
        bump t
        let o ← assign false false n
        let sp ← spanOf t.start o.stop
        pure (ArrayItem.element (.spreadElement sp o.node),
              o.target.map fun p => Node.restElement sp p, o.isExpr)
      else do
        let o ← assign false false n
        pure (ArrayItem.element o.node, o.element, o.isExpr)
    let u ← peek
    if isSym u "," then
      bump u
      arrayItems n ((.comma, none, true) :: item :: acc)
    else return (item :: acc).reverse
termination_by structural fuel _ => fuel

/-- An object literal, also read as an object pattern. -/
def objectCover : Nat → Reader Operand
  | 0 => tooDeep
  | n + 1 => do
    let o ← expectWith .operand "\x7b"
    let members ← objectMembers n []
    let c ← expect "\x7d"
    let sp ← spanOf o.start c.stop
    let exprs := members.map fun (e, _, _) => e
    let isExpr := members.all fun (_, _, ok) => ok
    let pattern := (collect (members.map fun (_, p, _) => p)).map fun ps => Node.objectPattern sp ps
    return { node := .objectExpression sp exprs, target := pattern, element := pattern,
             isExpr := isExpr }
termination_by structural fuel => fuel

/-- The members of an object, each with its pattern form and whether it is an
expression; empty places between commas are allowed. -/
def objectMembers : Nat → List (Node × Option Node × Bool) →
    Reader (List (Node × Option Node × Bool))
  | 0, _ => tooDeep
  | n + 1, acc => do
    let t ← peekOperand
    if isSym t "\x7d" then return acc.reverse
    if isSym t "," then bump t; return ← objectMembers n acc
    let m ← objectMember n
    match ← eat "," with
    | some _ => objectMembers n (m :: acc)
    | none => return (m :: acc).reverse
termination_by structural fuel _ => fuel

/-- One member of an object: a spread, a method, a pair, a shorthand, or a
shorthand with a default (a pattern only). -/
def objectMember : Nat → Reader (Node × Option Node × Bool)
  | 0 => tooDeep
  | n + 1 => do
    let t ← peekOperand
    if isSym t "..." then
      bump t
      let o ← assign false false n
      let sp ← spanOf t.start o.stop
      return (.spreadElement sp o.node, o.target.map fun p => Node.restElement sp p, o.isExpr)
    let mods ← modifiers n []
    let (key, computed) ← propertyName n
    if !mods.isEmpty || (← sees "(") then
      let fn ← methodValue n (mods.contains "*") (mods.contains "async")
      let kind := if mods.contains "get" then "get" else if mods.contains "set" then "set"
        else "init"
      let sp ← spanOf t.start fn.span.stop.offset
      return (.property sp key fn kind computed (kind == "init") false, none, true)
    let (g, u) ← peekWith .operator
    if u.kind == .punct ":" then
      bump u
      let v ← assign false false n
      let sp ← spanOf t.start v.stop
      return (.property sp key v.node "init" computed false false,
              v.element.map fun p => Node.property sp key p "init" computed false false, v.isExpr)
    let shorthand := match key with
      | .identifier _ w => !computed && (!isReserved w || looseWords.contains w)
      | _ => false
    if !shorthand then failAt u g
    if isSym u "=" then
      bump u
      let dflt ← asExpr (← assign false false n)
      let sp ← spanOf t.start dflt.span.stop.offset
      return (.property sp key key "init" false false true,
              some (.property sp key (.assignmentPattern sp key dflt) "init" false false true),
              false)
    return (.property key.span key key "init" false false true,
            some (.property key.span key key "init" false false true), true)
termination_by structural fuel => fuel

/-- A template literal, from its opening backquote. -/
def template : Nat → Reader Node
  | 0 => tooDeep
  | n + 1 => do
    let o ← expectWith .operand "`"
    let (quasis, exprs, stop) ← templateParts n o.stop [] []
    return .templateLiteral (← spanOf o.start stop) quasis exprs
termination_by structural fuel => fuel

/-- The parts of a template from `from`: its plain texts and its substitutions,
and where its closing backquote stops. -/
def templateParts : Nat → Nat → List Node → List Node → Reader (List Node × List Node × Nat)
  | 0, _, _, _ => tooDeep
  | n + 1, from_, quasis, exprs => do
    let t ← templateAhead
    match t.kind with
    | .templateText _ => bump t; templateParts n from_ quasis exprs
    | .punct "$\x7b" =>
      let ctx ← read
      let raw := ctx.scanner.slice from_ t.start
      let q := Node.templateElement (← byteSpanOf from_ t.start) raw (← cookBody raw from_) false
      bump t
      let e ← asExpr (← expression false false n)
      let c ← expect "\x7d"
      templateParts n c.stop (q :: quasis) (e :: exprs)
    | .punct "`" | .missing "`" =>
      let ctx ← read
      let raw := ctx.scanner.slice from_ t.start
      let q := Node.templateElement (← byteSpanOf from_ t.start) raw (← cookBody raw from_) true
      bump t
      return ((q :: quasis).reverse, exprs.reverse, t.stop)
    | _ =>
      -- the template runs to the end of the text: it fails at the token that follows
      let ctx ← read
      failAt t (ctx.scanner.gap .operator (← here))
termination_by structural fuel _ _ _ => fuel

/-- An element `<a …>…</a>`, `<a … />` or `<>…</>`; the tree has no shape for it. -/
def element : Nat → Reader Operand
  | 0 => tooDeep
  | n + 1 => do
    let t ← expectWith .operand "<"
    let before := (← get).faults
    let u ← peek
    -- a supplied `>` closes only a closing tag: after an opening one the children
    -- would read the failing token otherwise
    if u.kind == .punct ">" then
      bump u
      fault (.unsupported "jsx_element" t.start)
      elementChildren n
      let _ ← expect "/"
      let _ ← expect ">"
    else
      elementName n
      elementAttributes n
      let (g, v) ← peekWith .operator
      let ctx ← read
      let v := if v.kind == .punct "/" && ctx.scanner.hasAt v.start "/>" then
          ⟨.punct "/>", v.start, v.start + 2⟩ else v
      if isSym v "/>" then
        bump v
        faultAround before (.unsupported "jsx_self_closing_element" t.start)
      else if v.kind == .punct ">" then
        bump v
        faultAround before (.unsupported "jsx_element" t.start)
        elementChildren n
        let _ ← expect "/"
        if !(← sees ">") then elementName n
        let _ ← expect ">"
      else failAt v g
    let stop ← here
    return .plain (.literal (← spanOf t.start stop) .null "" none none)
termination_by structural fuel => fuel

/-- The attributes of an element's opening tag. -/
def elementAttributes : Nat → Reader Unit
  | 0 => tooDeep
  | n + 1 => do
    let ctx ← read
    let c ← get
    let g := ctx.scanner.gap .operator c.pos
    let t := ctx.scanner.tagToken g.next
    if t.kind == .word then
      bump t
      let u ← peek
      if isSym u "=" then
        bump u
        let v := ctx.scanner.tagToken (ctx.scanner.gap .operator u.stop).next
        match v.kind with
        | .string .. => bump v
        | .punct "\x7b" =>
          bump v
          let _ ← asExpr (← assign false false n)
          let _ ← expect "\x7d"
        | .punct "<" => let _ ← element n
        | _ => failAt v g
      elementAttributes n
    else if t.kind == .punct "\x7b" then
      bump t
      let _ ← expect "..."
      let _ ← asExpr (← assign false false n)
      let _ ← expect "\x7d"
      elementAttributes n
termination_by structural fuel => fuel

/-- The children of an element, up to the `</` of its closing tag. -/
def elementChildren : Nat → Reader Unit
  | 0 => tooDeep
  | n + 1 => do
    let ctx ← read
    let c ← get
    let t := ctx.scanner.childToken c.pos
    match t.kind with
    | .elementText => bump t; elementChildren n
    | .punct "\x7b" =>
      bump t
      if !(← sees "\x7d") then let _ ← asExpr (← expression false false n)
      let _ ← expect "\x7d"
      elementChildren n
    | .punct "<" =>
      let u ← peekAfter t .operator
      if isSym u "/" then bump t
      else
        let _ ← element n
        elementChildren n
    | _ => failAt t (ctx.scanner.gap .operator c.pos)
termination_by structural fuel => fuel

end

end ScriptGate.Grammar
