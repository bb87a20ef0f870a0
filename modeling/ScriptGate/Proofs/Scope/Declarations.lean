import ScriptGate.Proofs.Scope.Functions

/-!
# Where each declaration belongs

`Node.declarations` lists, by recursion on the tree and without the arena, every identifier the
walk of a program declares, each with the scope it belongs in: the node that opens that scope
and the scope's kind (`Declaration`).  The rules are ECMAScript's, as the walk applies them.

* A `var` declaration belongs to the nearest function, arrow, static block or program around it.
  Hoisting finds it there through blocks, loops, labels, `catch` clauses and exports, but not
  inside a nested function or class (`Node.hoistedVars`).
* `let`, `const`, a named function or class, and the local names of an import belong to the
  statement list that holds them: a block, a `switch`, a function body, a static block or the
  program (`Node.listIdentifiers`, which looks through an export).
* `let` and `const` in the head of a `for` loop belong to the loop's own scope.
* Parameters belong to their function and a `catch` parameter to its clause; the name of a
  function expression to a scope of its own, opened by the name; the name of a class expression
  to the scope of the class's body.

A declaration that no hoisting reached, such as a function declaration under a label, belongs to
the scope the walk stands in where it meets it.  Two flags carry what hoisting did: `hoisting`,
that the `var` declarations met were hoisted already (the walk is in the body of a function,
static block or program, outside any nested function or class); `hoisted`, that the node, a
statement of a list or the head of a loop, had its own declaration hoisted.
-/

namespace ScriptGate

/-- A declaration: the identifier `name` at `span` declares a binding in the scope that `node`
opens, of kind `kind`. -/
structure Declaration where
  /-- The declared name. -/
  name : String
  /-- The span of the identifier that declares it. -/
  span : Span
  /-- The node that opens the scope it belongs in. -/
  node : Node
  /-- The kind of that scope. -/
  kind : ScopeKind

/-- Where the declaring identifier starts: the arena knows declarations by it. -/
def Declaration.start (d : Declaration) : Nat := d.span.start.offset

namespace Node

/-- The declaration an identifier makes in the scope of kind `home.2` that `home.1` opens; any
other node declares nothing. -/
def declaredIn (home : Node × ScopeKind) : Node → List Declaration
  | identifier sp name => [⟨name, sp, home.1, home.2⟩]
  | _ => []

/-- Where an identifier starts; nothing for another node. -/
def starts : Node → List Nat
  | identifier sp _ => [sp.start.offset]
  | _ => []

@[simp] theorem map_start_declaredIn (home : Node × ScopeKind) (x : Node) :
    (x.declaredIn home).map Declaration.start = x.starts := by
  cases x <;> rfl

/-- The identifiers a declarator introduces: those of its pattern. -/
def declaratorIdentifiers : Node → List Node
  | variableDeclarator _ t _ => ScopeBuilder.patternIdentifiers t
  | _ => []

/-- The identifiers a `var` declaration introduces. -/
def varIdentifiers : Node → List Node
  | variableDeclaration _ ds .var => ds.flatMap declaratorIdentifiers
  | _ => []

/-- The local name an import specifier binds. -/
def importLocals : Node → List Node
  | importSpecifier _ _ l | importDefaultSpecifier _ l | importNamespaceSpecifier _ l => [l]
  | _ => []

/-- The identifiers a declaration introduces into the statement list that holds it: those of a
`let` or `const` declaration, the name of a function or a class, the local names of an import. -/
def lexicalIdentifiers : Node → List Node
  | variableDeclaration _ ds kind => if kind != .var then ds.flatMap declaratorIdentifiers else []
  | functionDeclaration _ (some i) .. | classDeclaration _ (some i) .. => [i]
  | importDeclaration _ specs _ => specs.flatMap importLocals
  | _ => []

/-- The declaration a statement of a list stands for: what an export declares, or the statement
itself. -/
def unwrapExport : Node → Node
  | exportNamedDeclaration _ (some d) _ _ | exportDefaultDeclaration _ d => d
  | st => st

theorem sizeOf_unwrapExport_le (st : Node) : sizeOf st.unwrapExport ≤ sizeOf st := by
  cases st
  case exportNamedDeclaration sp d specs src =>
    cases d
    · exact Nat.le_refl _
    · simp only [unwrapExport, exportNamedDeclaration.sizeOf_spec, Option.some.sizeOf_spec]
      omega
  case exportDefaultDeclaration sp d =>
    simp only [unwrapExport, exportDefaultDeclaration.sizeOf_spec]
    omega
  all_goals exact Nat.le_refl _

/-- The identifiers hoisting declares for a statement list. -/
def listIdentifiers (stmts : List Node) : List Node :=
  stmts.flatMap fun st => st.unwrapExport.lexicalIdentifiers

/-- The identifiers hoisting declares for the statements of a `switch` case. -/
def caseIdentifiers : Node → List Node
  | switchCase _ _ cons => listIdentifiers cons
  | _ => []

/-- Whether the head of a `for` loop is a `let` or `const` declaration, which opens a scope of
its own. -/
def lexicalHead : Option Node → Bool
  | some (variableDeclaration _ _ kind) => kind != .var
  | _ => false

/-- The `var` identifiers hoisting finds below a node: at each child that is not a function or
a class, those the child declares and those below it. -/
def hoistedVars (n : Node) : List Node :=
  n.children.attach.flatMap fun ⟨c, _⟩ =>
    if c.isFunction || ScopeBuilder.isClass c then [] else c.varIdentifiers ++ c.hoistedVars
termination_by sizeOf n
decreasing_by exact sizeOf_lt_of_mem_children ‹_›

/-- The `var` identifiers hoisting from a node's parent finds at the node. -/
def varsReached (c : Node) : List Node :=
  if c.isFunction || ScopeBuilder.isClass c then [] else c.varIdentifiers ++ c.hoistedVars

theorem hoistedVars_eq (n : Node) : n.hoistedVars = n.children.flatMap varsReached := by
  rw [hoistedVars, List.flatMap_subtype (fun _ _ => rfl), List.unattach_attach]
  rfl

mutual

/-- The declarations the walk makes in `n`, standing in the scope of kind `home.2` that `home.1`
opens, each with the scope it belongs in.  `hoisting` says the `var` declarations met were
hoisted already and `hoisted` that `n`'s own declaration was. -/
def declarationsIn (home : Node × ScopeKind) (hoisting hoisted : Bool) (n : Node) :
    List Declaration :=
  match n with
  | program _ body _ =>
    (n.hoistedVars ++ listIdentifiers body).flatMap (declaredIn (n, .module)) ++
      statementDeclarations (n, .module) true body
  | identifier .. => []
  | f@(functionDeclaration _ ident ..) =>
    (if hoisted then [] else ident.toList.flatMap (declaredIn home)) ++ functionDeclarations f
  | f@(functionExpression _ ident ..) =>
    ident.toList.flatMap (fun i => i.declaredIn (i, .functionName)) ++ functionDeclarations f
  | f@(arrowFunctionExpression ..) => functionDeclarations f
  | blockStatement _ body =>
    (listIdentifiers body).flatMap (declaredIn (n, .block)) ++
      statementDeclarations (n, .block) hoisting body
  | staticBlock _ body =>
    (n.hoistedVars ++ listIdentifiers body).flatMap (declaredIn (n, .function)) ++
      statementDeclarations (n, .function) true body
  | variableDeclaration _ ds kind =>
    ds.attach.flatMap fun ⟨d, _⟩ => match _hd : d with
      | variableDeclarator _ t init =>
        (if (if kind = .var then hoisting else hoisted) then []
          else (ScopeBuilder.patternIdentifiers t).flatMap (declaredIn home)) ++
        patternDeclarations home hoisting t ++ optionDeclarations home hoisting false init
      | _ => []
  | memberExpression _ o p computed _ =>
    declarationsIn home hoisting false o ++
      if computed then declarationsIn home hoisting false p else []
  | property _ k v _ computed _ _ | methodDefinition _ k computed v _ _ =>
    (if computed then declarationsIn home hoisting false k else []) ++
      declarationsIn home hoisting false v
  | propertyDefinition _ k computed v _ =>
    (if computed then declarationsIn home hoisting false k else []) ++
      optionDeclarations home hoisting false v
  | privateIdentifier .. | breakStatement .. | continueStatement .. | metaProperty ..
  | importDeclaration .. | exportAllDeclaration .. => []
  | classDeclaration _ ident superClass body =>
    (if hoisted then [] else ident.toList.flatMap (declaredIn home)) ++
      optionDeclarations home false false superClass ++
      declarationsIn (n, .classBody) false false body
  | classExpression _ ident superClass body =>
    optionDeclarations home false false superClass ++
      ident.toList.flatMap (declaredIn (n, .classBody)) ++
      declarationsIn (n, .classBody) false false body
  | forStatement _ init test update body =>
    let h := if lexicalHead init then (n, .loopHead) else home
    (if lexicalHead init then init.toList.flatMap lexicalIdentifiers else []).flatMap
        (declaredIn h) ++
      optionDeclarations h hoisting (lexicalHead init) init ++
      optionDeclarations h hoisting false test ++ optionDeclarations h hoisting false update ++
      declarationsIn h hoisting false body
  | forInStatement _ left right body | forOfStatement _ left right body =>
    declarationsIn home hoisting false right ++
      match _hl : left with
      | variableDeclaration _ ds kind =>
        let h := if kind != .var then (n, .loopHead) else home
        (if kind != .var then left.lexicalIdentifiers else []).flatMap (declaredIn h) ++
          ds.attach.flatMap (fun ⟨d, _⟩ => match _hd : d with
            | variableDeclarator _ t _ => patternDeclarations h hoisting t
            | _ => []) ++
          declarationsIn h hoisting false body
      | _ => declarationsIn home hoisting false left ++ declarationsIn home hoisting false body
  | catchClause _ param body =>
    (match _hp : param with
      | some p => (ScopeBuilder.patternIdentifiers p).flatMap (declaredIn (n, .catchClause)) ++
          patternDeclarations (n, .catchClause) hoisting p
      | none => []) ++
      declarationsIn (n, .catchClause) hoisting false body
  | switchStatement _ disc cases =>
    declarationsIn home hoisting false disc ++
      (cases.flatMap caseIdentifiers).flatMap (declaredIn (n, .switchBody)) ++
      cases.attach.flatMap fun ⟨c, _⟩ => match _hc : c with
        | switchCase _ test cons =>
          optionDeclarations (n, .switchBody) hoisting false test ++
            statementDeclarations (n, .switchBody) hoisting cons
        | _ => []
  | labeledStatement _ _ body => declarationsIn home hoisting false body
  | exportNamedDeclaration _ (some d) _ _ => declarationsIn home hoisting false d
  | exportNamedDeclaration _ none _ _ => []
  | exportDefaultDeclaration _ d => declarationsIn home hoisting false d
  | other => other.children.attach.flatMap fun ⟨c, _⟩ => declarationsIn home hoisting false c
termination_by 2 * sizeOf n + 1
decreasing_by
  all_goals
    subst_vars
    first
    | (simp <;> omega)
    | (have hs := sizeOf_lt_of_mem_children ‹_›; simp at hs ⊢ <;> omega)
    | (have hs := List.sizeOf_lt_of_mem ‹_ ∈ _›; simp at hs ⊢ <;> omega)

/-- The declarations the walk makes in a node that may be absent. -/
def optionDeclarations (home : Node × ScopeKind) (hoisting hoisted : Bool) (o : Option Node) :
    List Declaration :=
  match o with
  | some n => declarationsIn home hoisting hoisted n
  | none => []
termination_by 2 * sizeOf o + 1
decreasing_by all_goals (simp <;> omega)

/-- The declarations the walk makes in a function: its parameters and everything its body
declares belong to the function's own scope, unless a nested scope claims them. -/
def functionDeclarations (f : Node) : List Declaration :=
  match f with
  | functionDeclaration _ _ params body .. | functionExpression _ _ params body ..
  | arrowFunctionExpression _ params body .. =>
    params.attach.flatMap (fun ⟨p, _⟩ =>
        (ScopeBuilder.patternIdentifiers p).flatMap (declaredIn (f, .function)) ++
          patternDeclarations (f, .function) false p) ++
      match _hb : body with
      | blockStatement _ stmts =>
        (body.hoistedVars ++ listIdentifiers stmts).flatMap (declaredIn (f, .function)) ++
          statementDeclarations (f, .function) true stmts
      | _ => declarationsIn (f, .function) false false body
  | _ => []
termination_by 2 * sizeOf f
decreasing_by
  all_goals
    subst_vars
    first
    | (simp <;> omega)
    | (have hs := List.sizeOf_lt_of_mem ‹_ ∈ _›; simp at hs ⊢ <;> omega)

/-- The declarations the walk makes in the default values and computed keys of a declaration
pattern; its identifier leaves are declared by what holds the pattern. -/
def patternDeclarations (home : Node × ScopeKind) (hoisting : Bool) (p : Node) :
    List Declaration :=
  match p with
  | assignmentPattern _ l r =>
    patternDeclarations home hoisting l ++ declarationsIn home hoisting false r
  | objectPattern _ props =>
    props.attach.flatMap fun ⟨prop, _⟩ => match _hp : prop with
      | property _ k v _ computed _ _ =>
        (if computed then declarationsIn home hoisting false k else []) ++
          patternDeclarations home hoisting v
      | other => patternDeclarations home hoisting other
  | arrayPattern _ es =>
    es.attach.flatMap fun ⟨e, _⟩ => match _he : e with
      | some e => patternDeclarations home hoisting e
      | none => []
  | restElement _ a => patternDeclarations home hoisting a
  | _ => []
termination_by 2 * sizeOf p + 1
decreasing_by
  all_goals
    subst_vars
    first
    | (simp <;> omega)
    | (have hs := List.sizeOf_lt_of_mem ‹_ ∈ _›; simp at hs ⊢ <;> omega)

/-- The declarations the walk makes in the statements of a list, whose own declarations were
hoisted. -/
def statementDeclarations (home : Node × ScopeKind) (hoisting : Bool) (stmts : List Node) :
    List Declaration :=
  stmts.attach.flatMap fun ⟨st, _⟩ => declarationsIn home hoisting true st.unwrapExport
termination_by 2 * sizeOf stmts + 1
decreasing_by
  have hs := List.sizeOf_lt_of_mem ‹_ ∈ _›
  have hle := sizeOf_unwrapExport_le st
  omega

end

theorem varIdentifiers_eq_nil {x : Node}
    (h : ∀ sp ds, x = variableDeclaration sp ds .var → False) : x.varIdentifiers = [] := by
  unfold varIdentifiers
  split
  · exact absurd rfl (h _ _)
  · rfl

theorem lexicalIdentifiers_eq_nil {x : Node}
    (hvar : ∀ sp ds kind, x = variableDeclaration sp ds kind → False)
    (hfun : ∀ sp i ps b g a, x = functionDeclaration sp (some i) ps b g a → False)
    (hclass : ∀ sp i sc b, x = classDeclaration sp (some i) sc b → False)
    (himport : ∀ sp specs src, x = importDeclaration sp specs src → False) :
    x.lexicalIdentifiers = [] := by
  unfold lexicalIdentifiers
  split
  · exact absurd rfl (hvar _ _ _)
  · exact absurd rfl (hfun _ _ _ _ _ _)
  · exact absurd rfl (hclass _ _ _ _)
  · exact absurd rfl (himport _ _ _)
  · rfl

/-- What hoisting looks at in a statement of a list: the declaration of an export, or the
statement itself. -/
def hoistedDeclaration : Node → Option Node
  | exportNamedDeclaration _ d .. => d
  | exportDefaultDeclaration _ d => some d
  | s => some s

/-- The declaration hoisting finds in a statement is the one the statement stands for. -/
theorem unwrapExport_of_hoisted {st x : Node} (h : st.hoistedDeclaration = some x) :
    st.unwrapExport = x := by
  cases st
  case exportNamedDeclaration sp d specs src =>
    cases d
    · cases h
    · exact Option.some.inj h
  all_goals exact Option.some.inj h

/-- A statement in which hoisting finds no declaration that it declares introduces nothing into
its list. -/
theorem lexicalIdentifiers_unwrapExport_eq_nil {st : Node}
    (hvar : ∀ sp ds kind, st.hoistedDeclaration = some (variableDeclaration sp ds kind) → False)
    (hfun : ∀ sp i ps b g a,
      st.hoistedDeclaration = some (functionDeclaration sp (some i) ps b g a) → False)
    (hclass : ∀ sp i sc b,
      st.hoistedDeclaration = some (classDeclaration sp (some i) sc b) → False)
    (himport : ∀ sp specs src,
      st.hoistedDeclaration = some (importDeclaration sp specs src) → False) :
    st.unwrapExport.lexicalIdentifiers = [] := by
  cases hd : st.hoistedDeclaration with
  | none =>
    -- only an export of names alone hoists nothing, and it declares nothing
    cases st
    case exportNamedDeclaration sp d specs src =>
      cases d
      · rfl
      · cases hd
    all_goals cases hd
  | some x =>
    rw [unwrapExport_of_hoisted hd]
    exact lexicalIdentifiers_eq_nil (fun sp ds kind h => hvar sp ds kind (hd.trans (congrArg _ h)))
      (fun sp i ps b g a h => hfun sp i ps b g a (hd.trans (congrArg _ h)))
      (fun sp i sc b h => hclass sp i sc b (hd.trans (congrArg _ h)))
      (fun sp specs src h => himport sp specs src (hd.trans (congrArg _ h)))

/-- A declaration an identifier makes is known by where the identifier starts. -/
theorem start_of_mem_declaredIn {home : Node × ScopeKind} {x : Node} {d : Declaration}
    (h : d ∈ x.declaredIn home) : d.start = x.span.start.offset := by
  cases x
  case identifier sp name =>
    simp only [declaredIn, List.mem_singleton] at h
    subst h
    rfl
  all_goals simp [declaredIn] at h

/-- The declarations of a program, each with the scope it belongs in. -/
def declarations (P : Node) : List Declaration := P.declarationsIn (P, .module) false false

end Node

/-- `var a; { let b; function g(c) { var d; } }` -/
def nestedDeclarationsProgram : Node :=
  .program (.onFirstLine 0 42) [
    .variableDeclaration (.onFirstLine 0 6)
      [.variableDeclarator (.onFirstLine 4 5) (.identifier (.onFirstLine 4 5) "a") none] .var,
    .blockStatement (.onFirstLine 7 42) [
      .variableDeclaration (.onFirstLine 9 15)
        [.variableDeclarator (.onFirstLine 13 14) (.identifier (.onFirstLine 13 14) "b") none] .lexicalLet,
      .functionDeclaration (.onFirstLine 16 40) (some (.identifier (.onFirstLine 25 26) "g"))
        [.identifier (.onFirstLine 27 28) "c"]
        (.blockStatement (.onFirstLine 30 40) [
          .variableDeclaration (.onFirstLine 32 38)
            [.variableDeclarator (.onFirstLine 36 37) (.identifier (.onFirstLine 36 37) "d") none]
            .var]) false false]] false

/- The `var` names belong to the module and to `g`, `b` and the name `g` to the block, and the
parameter `c` to `g`. -/
example : nestedDeclarationsProgram.declarations.map (fun d => (d.name, d.kind)) =
    [("a", .module), ("b", .block), ("g", .block), ("c", .function), ("d", .function)] := by
  decide +kernel

/-! ## Arenas that keep each declaration where it belongs -/

namespace Arena

/-- Scope `i` of `a` is opened by `home.1` and has kind `home.2`. -/
def Opens (a : Arena) (i : Nat) (home : Node × ScopeKind) : Prop :=
  ∃ s, a.scope? i = some s ∧ s.node = home.1 ∧ s.kind = home.2

/-- Scope `i` of `a` is one that `d` belongs in, and holds a binding of its name. -/
def Holds (a : Arena) (i : Nat) (d : Declaration) : Prop :=
  ∃ s, a.scope? i = some s ∧ s.node = d.node ∧ s.kind = d.kind ∧
    s.bindings.any (·.name == d.name) = true

/-- Each declaration `a` records is one of `U`, made by the same identifier, recorded under its
name in a scope it belongs in, which holds its binding. -/
def Homed (U : List Declaration) (a : Arena) : Prop :=
  ∀ e ∈ a.declared, ∃ d ∈ U, d.start = e.1 ∧ e.2.2 = d.name ∧ a.Holds e.2.1 d

/-- `a` records a declaration by the identifier that starts at `o`. -/
def Declares (a : Arena) (o : Nat) : Prop := ∃ key, (o, key) ∈ a.declared

/-- `b` keeps what `a` knows of declarations: each scope at its index, opened by the same node,
of the same kind and declaring at least the same names; and each declaration recorded. -/
structure Grows (a b : Arena) : Prop where
  scopes : ∀ i s, a.scope? i = some s → ∃ s', b.scope? i = some s' ∧ s'.node = s.node ∧
    s'.kind = s.kind ∧ ∀ name, s.bindings.any (·.name == name) = true →
      s'.bindings.any (·.name == name) = true
  declared : a.declared ⊆ b.declared

namespace Grows

theorem refl (a : Arena) : a.Grows a :=
  ⟨fun _ s hs => ⟨s, hs, rfl, rfl, fun _ h => h⟩, fun _ h => h⟩

theorem trans {a b c : Arena} (hab : a.Grows b) (hbc : b.Grows c) : a.Grows c := by
  refine ⟨fun i s hs => ?_, fun _ he => hbc.declared (hab.declared he)⟩
  obtain ⟨s', hs', hnode, hkind, hnames⟩ := hab.scopes i s hs
  obtain ⟨s'', hs'', hnode', hkind', hnames'⟩ := hbc.scopes i s' hs'
  exact ⟨s'', hs'', hnode'.trans hnode, hkind'.trans hkind, fun name h => hnames' name (hnames name h)⟩

theorem opens {a b : Arena} (hab : a.Grows b) {i : Nat} {home : Node × ScopeKind}
    (h : a.Opens i home) : b.Opens i home := by
  obtain ⟨s, hs, hnode, hkind⟩ := h
  obtain ⟨s', hs', hnode', hkind', -⟩ := hab.scopes i s hs
  exact ⟨s', hs', hnode'.trans hnode, hkind'.trans hkind⟩

theorem holds {a b : Arena} (hab : a.Grows b) {i : Nat} {d : Declaration} (h : a.Holds i d) :
    b.Holds i d := by
  obtain ⟨s, hs, hnode, hkind, hname⟩ := h
  obtain ⟨s', hs', hnode', hkind', hnames⟩ := hab.scopes i s hs
  exact ⟨s', hs', hnode'.trans hnode, hkind'.trans hkind, hnames _ hname⟩

theorem declares {a b : Arena} (hab : a.Grows b) {o : Nat} (h : a.Declares o) : b.Declares o :=
  let ⟨key, hkey⟩ := h
  ⟨key, hab.declared hkey⟩

end Grows

/-- Growing an arena without recording a declaration keeps every declaration at home. -/
theorem Homed.of_grows {U : List Declaration} {a b : Arena} (h : a.Homed U) (hab : a.Grows b)
    (hdecl : b.declared = a.declared) : b.Homed U := by
  intro e he
  rw [hdecl] at he
  obtain ⟨d, hd, hstart, hname, hholds⟩ := h e he
  exact ⟨d, hd, hstart, hname, hab.holds hholds⟩

/-- Changing one scope, keeping its node, its kind and its names, grows an arena. -/
theorem grows_modify (a : Arena) (k : Nat) {F : Scope → Scope}
    (hF : ∀ s, (F s).node = s.node ∧ (F s).kind = s.kind ∧
      ∀ name, s.bindings.any (·.name == name) = true → (F s).bindings.any (·.name == name) = true) :
    a.Grows { a with scopes := a.scopes.modify k F } := by
  refine ⟨fun i s hs => ?_, fun _ h => h⟩
  simp only [scope?, Array.getElem?_modify] at hs ⊢
  rw [hs]
  split
  · exact ⟨F s, rfl, hF s⟩
  · exact ⟨s, rfl, rfl, rfl, fun _ h => h⟩

/-- Opening a scope inside scope `i` grows an arena. -/
theorem grows_withChildScope (a : Arena) {i : Nat} (hi : i < a.scopes.size) (sc : Scope) :
    a.Grows (a.withChildScope i sc) := by
  refine ⟨fun j s hs => ?_, fun _ h => h⟩
  have hj : j < a.scopes.size := by
    simp only [scope?] at hs
    exact (Array.getElem?_eq_some_iff.1 hs).1
  rw [scope?_withChildScope a hi, if_neg (by omega), hs]
  exact ⟨_, rfl, by split <;> rfl, by split <;> rfl, fun _ h => by split <;> exact h⟩

/-- Where a declaration is recorded, the arena finds one by its start. -/
theorem declaredAt_isSome {a : Arena} {o : Nat} (h : a.Declares o) : (a.declaredAt o).isSome := by
  obtain ⟨key, hkey⟩ := h
  simp only [declaredAt, Option.isSome_map]
  exact List.find?_isSome.2 ⟨(o, key), hkey, by simp⟩

/-- What the arena finds by a start is recorded there. -/
theorem mem_declared_of_declaredAt {a : Arena} {o : Nat} {key : BindingKey}
    (h : a.declaredAt o = some key) : (o, key) ∈ a.declared := by
  obtain ⟨e, he, rfl⟩ := Option.map_eq_some_iff.1 h
  have ho : e.1 = o := by simpa using List.find?_some he
  rw [← ho]
  exact List.mem_of_find?_eq_some he

end Arena

/-! ## Steps that keep declarations at home -/

namespace ScopeBuilder

open Node Arena

/-- What the step `m` does from the arena `a`: given that the declarations it makes, `D`, are
among `U`, that `a` keeps those it records at home and records the declarations `pre` assumes,
the step keeps every declaration at home, grows the arena and records each of `D`. -/
def Settles (U : List Declaration) {α : Type} (m : ScopeM α) (pre : List Nat)
    (D : List Declaration) (a : Arena) : Prop :=
  D ⊆ U → a.Homed U → (∀ o ∈ pre, a.Declares o) →
    (Id.run (m.run a)).2.Homed U ∧ a.Grows (Id.run (m.run a)).2 ∧
      ∀ d ∈ D, (Id.run (m.run a)).2.Declares d.start

/-- A step that, run in scope `i` opened by `home`, settles every arena: it keeps declarations
at home and makes those of `D`, given those `pre` assumes made. -/
def Lands (U : List Declaration) {α : Type} (m : ScopeM α) (i : Nat) (home : Node × ScopeKind)
    (pre : List Nat) (D : List Declaration) : Prop :=
  ∀ a, a.Opens i home → Settles U m pre D a

namespace Lands

variable {U : List Declaration} {α β : Type} {i : Nat} {home : Node × ScopeKind}
  {pre : List Nat}

theorem pure (x : α) : Lands U (Pure.pure x : ScopeM α) i home pre [] :=
  fun a _ _ h _ => ⟨h, Grows.refl a, fun _ hd => absurd hd List.not_mem_nil⟩

/-- Two steps in a row: the second may assume what the first declared. -/
theorem bindFrom {a : Arena} {m : ScopeM α} {f : α → ScopeM β} {D₁ D₂ : List Declaration}
    (hopen : a.Opens i home) (hm : Settles U m pre D₁ a)
    (hf : ∀ x, Lands U (f x) i home (pre ++ D₁.map Declaration.start) D₂) :
    Settles U (m >>= f) pre (D₁ ++ D₂) a := by
  intro hD h hpre
  obtain ⟨h₁, hg₁, hd₁⟩ := hm (fun d hd => hD (List.mem_append_left _ hd)) h hpre
  have hpre₁ : ∀ o ∈ pre ++ D₁.map Declaration.start, (Id.run (m.run a)).2.Declares o := by
    intro o ho
    rcases List.mem_append.1 ho with ho | ho
    · exact hg₁.declares (hpre o ho)
    · obtain ⟨d, hd, rfl⟩ := List.mem_map.1 ho
      exact hd₁ d hd
  obtain ⟨h₂, hg₂, hd₂⟩ :=
    hf _ _ (hg₁.opens hopen) (fun d hd => hD (List.mem_append_right _ hd)) h₁ hpre₁
  simp only [StateT.run_bind, Id.run_bind]
  refine ⟨h₂, hg₁.trans hg₂, fun d hd => ?_⟩
  rcases List.mem_append.1 hd with hd | hd
  · exact hg₂.declares (hd₁ d hd)
  · exact hd₂ d hd

theorem bind {m : ScopeM α} {f : α → ScopeM β} {D₁ D₂ : List Declaration}
    (hm : Lands U m i home pre D₁)
    (hf : ∀ x, Lands U (f x) i home (pre ++ D₁.map Declaration.start) D₂) :
    Lands U (m >>= f) i home pre (D₁ ++ D₂) :=
  fun a hopen => bindFrom hopen (hm a hopen) hf

/-- A step that makes `D`, then one that makes nothing. -/
theorem bind_nil {m : ScopeM α} {f : α → ScopeM β} {D : List Declaration}
    (hm : Lands U m i home pre D)
    (hf : ∀ x, Lands U (f x) i home (pre ++ D.map Declaration.start) []) :
    Lands U (m >>= f) i home pre D := by
  simpa using bind hm hf

/-- A step that makes nothing, then one that makes `D`. -/
theorem nil_bind {m : ScopeM α} {f : α → ScopeM β} {D : List Declaration}
    (hm : Lands U m i home pre []) (hf : ∀ x, Lands U (f x) i home pre D) :
    Lands U (m >>= f) i home pre D := by
  simpa using bind hm (by simpa using hf)

/-- A step that looks at the arena, then does what the arena it saw says. -/
theorem get_bind {f : Arena → ScopeM β} {D : List Declaration}
    (hf : ∀ a, a.Opens i home → Settles U (f a) pre D a) : Lands U (get >>= f) i home pre D :=
  hf

/-- A step may assume more, and makes the same declarations in any order. -/
theorem mono {m : ScopeM α} {pre' : List Nat} {D D' : List Declaration}
    (h : Lands U m i home pre D) (hpre : pre ⊆ pre') (hD : ∀ d, d ∈ D' ↔ d ∈ D) :
    Lands U m i home pre' D' := by
  intro a hopen hD' ha hpre'
  obtain ⟨h₁, hg, hd⟩ :=
    h a hopen (fun d hd => hD' ((hD d).2 hd)) ha (fun o ho => hpre' o (hpre ho))
  exact ⟨h₁, hg, fun d hd' => hd d ((hD d).1 hd')⟩

/-- Two steps in a row, the second assuming only what the first did. -/
theorem seq {m : ScopeM α} {f : α → ScopeM β} {D₁ D₂ : List Declaration}
    (hm : Lands U m i home pre D₁) (hf : ∀ x, Lands U (f x) i home pre D₂) :
    Lands U (m >>= f) i home pre (D₁ ++ D₂) :=
  bind hm fun x => (hf x).mono (List.subset_append_left _ _) fun _ => Iff.rfl

/-- A value returned, then a step run with it: the step alone. -/
theorem pure_bind {x : α} {f : α → ScopeM β} {D : List Declaration}
    (h : Lands U (f x) i home pre D) : Lands U (Pure.pure x >>= f) i home pre D := h

/-- A loop makes what its rounds make, each round assuming what the loop assumes. -/
theorem forM {xs : List β} {f : β → ScopeM PUnit} {L : β → List Declaration}
    (h : ∀ x ∈ xs, Lands U (f x) i home pre (L x)) : Lands U (xs.forM f) i home pre (xs.flatMap L) := by
  induction xs with
  | nil => exact pure _
  | cons x xs ih =>
    exact bind (h x List.mem_cons_self) fun _ =>
      (ih fun y hy => h y (List.mem_cons_of_mem _ hy)).mono (List.subset_append_left _ _)
        fun _ => Iff.rfl

/-- A loop whose rounds make no declaration makes none. -/
theorem forM_nil {xs : List β} {f : β → ScopeM PUnit} (h : ∀ x ∈ xs, Lands U (f x) i home pre []) :
    Lands U (xs.forM f) i home pre [] :=
  (forM h).mono (fun _ h => h) (by simp)

/-- A loop over the members of a list, each with its proof of membership. -/
theorem forM_attach {xs : List β} {f : {x // x ∈ xs} → ScopeM PUnit} {L : β → List Declaration}
    (h : ∀ x (hx : x ∈ xs), Lands U (f ⟨x, hx⟩) i home pre (L x)) :
    Lands U (xs.attach.forM f) i home pre (xs.flatMap L) := by
  have hall : Lands U (xs.attach.forM f) i home pre (xs.attach.flatMap fun x => L x.1) :=
    forM fun ⟨x, hx⟩ _ => h x hx
  rwa [List.flatMap_subtype (fun _ _ => rfl), List.unattach_attach] at hall

/-- A step that grows the arena and records nothing makes no declaration. -/
theorem of_grows {m : ScopeM α}
    (hm : ∀ a, a.Grows (Id.run (m.run a)).2 ∧ (Id.run (m.run a)).2.declared = a.declared) :
    Lands U m i home pre [] := by
  intro a _ _ h _
  obtain ⟨hg, hdecl⟩ := hm a
  exact ⟨h.of_grows hg hdecl, hg, fun _ hd => absurd hd List.not_mem_nil⟩

end Lands

variable {U : List Declaration} {i : Nat} {home : Node × ScopeKind} {pre : List Nat}

/-- Changing bindings without renaming them makes no declaration. -/
theorem updateBinding_lands (key : BindingKey) {f : Binding → Binding}
    (hf : ∀ b, (f b).name = b.name) : Lands U (updateBinding key f) i home pre [] := by
  have hname : ∀ b : Binding, (if b.name == key.2 then f b else b).name = b.name := by
    intro b
    split <;> simp [hf]
  exact Lands.of_grows fun a => ⟨grows_modify a key.1 fun s => ⟨rfl, rfl, fun name hn => by
    simpa only [List.any_map, Function.comp_def, hname] using hn⟩, rfl⟩

theorem addReference_lands (ident : Node) (j : Nat) (read write : Bool) :
    Lands U (addReference ident j read write) i home pre [] := by
  cases ident
  case identifier sp name =>
    exact Lands.of_grows fun a => ⟨⟨fun _ s hs => ⟨s, hs, rfl, rfl, fun _ h => h⟩,
      fun _ h => h⟩, rfl⟩
  all_goals exact Lands.pure _

theorem markInitialized_lands (p : Node) : Lands U (markInitialized p) i home pre [] := by
  refine Lands.forM_nil fun ident _ => Lands.get_bind fun a => ?_
  split
  · exact updateBinding_lands _ (fun _ => by rfl) a
  · exact Lands.pure _ a

theorem markExported_lands (d : Node) : Lands U (markExported d) i home pre [] := by
  refine Lands.forM_nil fun ident _ => Lands.get_bind fun a => ?_
  split
  · exact updateBinding_lands _ (fun _ => by rfl) a
  · exact Lands.pure _ a


/-- Declaring an identifier in scope `j`: the scope's binding of the name is kept or appended,
and the declaration recorded. -/
theorem declare_run {a : Arena} {j : Nat} {s : Scope} (hs : a.scope? j = some s) (sp : Span)
    (name : String) (kind : BindingKind) :
    ∃ F : Scope → Scope, (∀ t, (F t).node = t.node ∧ (F t).kind = t.kind ∧
      ∀ n, t.bindings.any (·.name == n) = true → (F t).bindings.any (·.name == n) = true) ∧
      (F s).bindings.any (·.name == name) = true ∧
      Id.run ((declare j (.identifier sp name) kind).run a) =
        (some (j, name),
          { a with
            scopes := a.scopes.modify j F
            declared := (sp.start.offset, (j, name)) :: a.declared }) := by
  by_cases hany : s.bindings.any (·.name == name) = true
  · -- the name is declared again: its binding gains the identifier
    let g : Binding → Binding := fun b => if b.name == name then
      (if b.identifiers.any (·.start.offset == sp.start.offset) then b
        else { b with identifiers := b.identifiers ++ [sp] }) else b
    have hname : ∀ b, (g b).name = b.name := by
      intro b
      simp only [g]
      split
      · split <;> rfl
      · rfl
    refine ⟨fun t => { t with bindings := t.bindings.map g }, fun t => ⟨rfl, rfl, fun n hn => ?_⟩,
      ?_, ?_⟩
    · simpa only [List.any_map, Function.comp_def, hname] using hn
    · simpa only [List.any_map, Function.comp_def, hname] using hany
    · simp [declare, hs, hany, updateBinding, g, StateT.run, bind, StateT.bind, get, getThe,
        MonadStateOf.get, StateT.get, pure]
      rfl
  · -- a new name: its binding is appended
    let b : Binding :=
      { name, kind, scope := j, functionScope := s.functionScope, identifiers := [sp] }
    refine ⟨fun t => { t with bindings := t.bindings ++ [b] }, fun t => ⟨rfl, rfl, fun n hn => ?_⟩,
      by simp [b], ?_⟩
    · simp [List.any_append, hn]
    · simp [declare, hs, hany, b, StateT.run, bind, StateT.bind, get, getThe,
        MonadStateOf.get, StateT.get, pure]
      rfl

/-- Declaring an identifier in scope `j`, opened by `home`, makes its declaration there. -/
theorem declare_lands {j : Nat} {x : Node} {kind : BindingKind} :
    Lands U (declare j x kind) j home pre (x.declaredIn home) := by
  cases x
  case identifier sp name =>
    intro a hopen hD h _
    obtain ⟨s, hs, hnode, hkind⟩ := hopen
    obtain ⟨F, hF, hname, hrun⟩ := declare_run hs sp name kind
    rw [hrun]
    have hg := grows_modify a j hF
    have hg' : a.Grows { a with
        scopes := a.scopes.modify j F
        declared := (sp.start.offset, (j, name)) :: a.declared } :=
      ⟨hg.scopes, fun _ he => List.mem_cons_of_mem _ he⟩
    have hnew : Arena.Holds { a with
        scopes := a.scopes.modify j F
        declared := (sp.start.offset, (j, name)) :: a.declared } j ⟨name, sp, home.1, home.2⟩ := by
      refine ⟨F s, ?_, (hF s).1.trans hnode, (hF s).2.1.trans hkind, hname⟩
      simp only [scope?, Array.getElem?_modify]
      simp only [scope?] at hs
      rw [hs]
      rfl
    refine ⟨fun e he => ?_, hg', fun d hd => ?_⟩
    · rcases List.mem_cons.1 he with rfl | he
      · exact ⟨_, hD (by simp [declaredIn]), rfl, rfl, hnew⟩
      · obtain ⟨d, hd, hstart, hkey, hholds⟩ := h e he
        exact ⟨d, hd, hstart, hkey, hg'.holds hholds⟩
    · simp only [declaredIn, List.mem_singleton] at hd
      subst hd
      exact ⟨_, List.mem_cons_self⟩
  all_goals exact Lands.pure _

theorem declare_lands_unit {j : Nat} {x : Node} {kind : BindingKind} :
    Lands U (do let _ ← declare j x kind : ScopeM PUnit) j home pre (x.declaredIn home) :=
  Lands.bind_nil declare_lands fun _ => Lands.pure _

theorem declareInitialized_lands {j : Nat} {x : Node} {kind : BindingKind} :
    Lands U (declareInitialized j x kind) j home pre (x.declaredIn home) := by
  refine Lands.bind_nil declare_lands fun key => ?_
  cases key with
  | none => exact Lands.pure _
  | some key => exact updateBinding_lands _ fun _ => rfl

/-- Declaring each of a list of identifiers in scope `j` makes their declarations there. -/
theorem declareEach_lands {j : Nat} (xs : List Node) (kind : BindingKind) :
    Lands U (xs.forM fun x => do let _ ← declare j x kind) j home pre
      (xs.flatMap (declaredIn home)) :=
  Lands.forM fun _ _ => declare_lands_unit

/-- Declaring the names of each declarator makes their declarations. -/
theorem declarators_lands {j : Nat} (ds : List Node) (kind : BindingKind) :
    Lands U (ds.forM fun d => match d with
      | .variableDeclarator _ t _ =>
        (patternIdentifiers t).forM fun x => do let _ ← declare j x kind
      | _ => pure ()) j home pre ((ds.flatMap declaratorIdentifiers).flatMap (declaredIn home)) := by
  refine (Lands.forM (L := fun d => d.declaratorIdentifiers.flatMap (declaredIn home))
    fun d _ => ?_).mono (fun _ h => h) (by simp [List.flatMap_assoc])
  cases d
  case variableDeclarator sp t init => exact declareEach_lands _ kind
  all_goals exact Lands.pure _

/-- Declaring a name where its identifier declares nothing yet leaves it declared. -/
theorem declareUnlessDeclared_lands {j : Nat} {x : Node} {kind : BindingKind} :
    Lands U (do if ((← get).declaredAt x.span.start.offset).isNone then
      let _ ← declare j x kind) j home pre (x.declaredIn home) := by
  refine Lands.get_bind fun a hopen => ?_
  split
  case isTrue => exact declare_lands_unit a hopen
  case isFalse hdeclared =>
    -- declared already: by this identifier, which makes nothing new
    have hsome : a.declaredAt x.span.start.offset ≠ none := fun hnone => hdeclared (by simp [hnone])
    obtain ⟨key, hkey⟩ := Option.ne_none_iff_exists'.1 hsome
    exact fun _ h _ => ⟨h, Grows.refl a, fun d hd =>
      ⟨key, (start_of_mem_declaredIn hd).symm ▸ mem_declared_of_declaredAt hkey⟩⟩

/-- Where hoisting declared an identifier already, the walk declares nothing for it again. -/
theorem declareUnlessDeclared_lands_of_assumed {j : Nat} {x : Node} {kind : BindingKind}
    (hx : x.starts ⊆ pre) :
    Lands U (do if ((← get).declaredAt x.span.start.offset).isNone then
      let _ ← declare j x kind) j home pre [] := by
  cases x
  case identifier sp name =>
    refine Lands.get_bind fun a hopen hD h hpre => ?_
    obtain ⟨key, hkey⟩ :=
      Option.isSome_iff_exists.1 (declaredAt_isSome (hpre sp.start.offset (hx (by simp [starts]))))
    simp only [Node.span, hkey, Option.isNone_some, Bool.false_eq_true, if_false]
    exact Lands.pure _ a hopen hD h hpre
  all_goals
    refine Lands.get_bind fun a hopen => ?_
    split
    · exact (declare_lands_unit : Lands U _ _ home _ _) a hopen
    · exact Lands.pure _ a hopen

/-- Opening a scope inside scope `i`: what follows runs in the new scope, opened by `node`. -/
theorem addScope_bind {kind : ScopeKind} {node : Node} {β : Type} {f : Nat → ScopeM β}
    {D : List Declaration} (hf : ∀ j, Lands U (f j) j (node, kind) pre D) :
    Lands U (addScope kind node (some i) >>= f) i home pre D := by
  intro a hopen hD h hpre
  obtain ⟨ps, hps, -, -⟩ := hopen
  have hlt : i < a.scopes.size := by
    simp only [scope?] at hps
    exact (Array.getElem?_eq_some_iff.1 hps).1
  let sc : Scope := ⟨a.scopes.size, kind, node, some i,
    if kind = .module ∨ kind = .function then a.scopes.size else ps.functionScope, [], []⟩
  have hg := grows_withChildScope a hlt sc
  have hopen' : (a.withChildScope i sc).Opens a.scopes.size (node, kind) :=
    ⟨sc, by rw [scope?_withChildScope a hlt, if_pos rfl], rfl, rfl⟩
  obtain ⟨h₂, hg₂, hd₂⟩ :=
    hf a.scopes.size _ hopen' hD (h.of_grows hg rfl) fun o ho => hg.declares (hpre o ho)
  simp only [StateT.run_bind, Id.run_bind]
  rw [addScope_run kind node hps]
  exact ⟨h₂, hg.trans hg₂, hd₂⟩

/-- Opening the module scope, with no parent: what follows runs in it. -/
theorem addScope_module_settles {node : Node} {β : Type} {f : Nat → ScopeM β}
    {D : List Declaration} (hf : ∀ j, Lands U (f j) j (node, .module) pre D) (a : Arena) :
    Settles U (addScope .module node none >>= f) pre D a := by
  intro hD h hpre
  let sc : Scope := ⟨a.scopes.size, .module, node, none, a.scopes.size, [], []⟩
  have hscope : ∀ j, ({ a with scopes := a.scopes.push sc } : Arena).scope? j =
      if j = a.scopes.size then some sc else a.scope? j := fun j => Array.getElem?_push
  have hg : a.Grows { a with scopes := a.scopes.push sc } := by
    refine ⟨fun j s hs => ?_, fun _ h => h⟩
    have hj : j ≠ a.scopes.size := by
      rintro rfl
      simp [scope?] at hs
    exact ⟨s, by rw [hscope, if_neg hj, hs], rfl, rfl, fun _ h => h⟩
  have hopen : ({ a with scopes := a.scopes.push sc } : Arena).Opens a.scopes.size
      (node, .module) := ⟨sc, by rw [hscope, if_pos rfl], rfl, rfl⟩
  obtain ⟨h₂, hg₂, hd₂⟩ :=
    hf a.scopes.size _ hopen hD (h.of_grows hg rfl) fun o ho => hg.declares (hpre o ho)
  exact ⟨h₂, hg.trans hg₂, hd₂⟩

/-- Hoisting the `var` declarations below a node into scope `j` makes their declarations there. -/
theorem hoistVars_lands (n : Node) (j : Nat) :
    Lands U (hoistVars n j) j home pre (n.hoistedVars.flatMap (declaredIn home)) := by
  rw [hoistVars]
  refine (Lands.forM_attach (L := fun c => c.varsReached.flatMap (declaredIn home))
    fun c hc => ?_).mono (fun _ h => h) (by simp [hoistedVars_eq, List.flatMap_assoc])
  dsimp only
  split
  case isTrue hstop =>
    -- hoisting stops at functions and classes
    exact (Lands.pure _).mono (fun _ h => h) (by simp [varsReached, hstop])
  case isFalse hgo =>
    have hreached : c.varsReached = c.varIdentifiers ++ c.hoistedVars := by
      simp [varsReached, hgo]
    split
    case h_1 sp ds =>
      -- a `var` declaration declares its names, and the search goes on below it
      exact (Lands.bind (declarators_lands ds .var) fun _ =>
        (hoistVars_lands (variableDeclaration sp ds .var) j).mono (List.subset_append_left _ _)
          fun _ => Iff.rfl).mono (fun _ h => h) (by simp [hreached, varIdentifiers])
    case h_2 hnot =>
      exact (hoistVars_lands c j).mono (fun _ h => h)
        (by simp [hreached, varIdentifiers_eq_nil hnot])
termination_by sizeOf n
decreasing_by all_goals exact Node.sizeOf_lt_of_mem_children hc

/-- Hoisting the lexical declarations of a statement list into scope `j` makes their
declarations there. -/
theorem hoistLexical_lands (stmts : List Node) (j : Nat) :
    Lands U (hoistLexical stmts j) j home pre ((listIdentifiers stmts).flatMap (declaredIn home)) := by
  refine (Lands.forM (L := fun st => st.unwrapExport.lexicalIdentifiers.flatMap (declaredIn home))
    fun st _ => ?_).mono (fun _ h => h) (by simp [listIdentifiers, List.flatMap_assoc])
  dsimp only
  split
  case h_1 sp ds kind heq =>
    rw [unwrapExport_of_hoisted heq]
    split
    case isTrue hlet =>
      exact (declarators_lands ds _).mono (fun _ h => h) (by simp [lexicalIdentifiers, hlet])
    case isFalse hvar =>
      exact (Lands.pure _).mono (fun _ h => h) (by simp [lexicalIdentifiers, hvar])
  case h_2 sp i ps b g a heq =>
    rw [unwrapExport_of_hoisted heq]
    exact declare_lands_unit.mono (fun _ h => h) (by simp [lexicalIdentifiers])
  case h_3 sp i sc b heq =>
    rw [unwrapExport_of_hoisted heq]
    exact declare_lands_unit.mono (fun _ h => h) (by simp [lexicalIdentifiers])
  case h_4 sp specs src heq =>
    rw [unwrapExport_of_hoisted heq]
    refine (Lands.forM (L := fun spec => spec.importLocals.flatMap (declaredIn home))
      fun spec _ => ?_).mono (fun _ h => h) (by simp [lexicalIdentifiers, List.flatMap_assoc])
    cases spec
    case importSpecifier sp' i l | importDefaultSpecifier sp' l | importNamespaceSpecifier sp' l =>
      exact declare_lands_unit.mono (fun _ h => h) (by simp [importLocals])
    all_goals exact Lands.pure _
  case h_5 hvar hfun hclass himport =>
    rw [lexicalIdentifiers_unwrapExport_eq_nil hvar hfun hclass himport]
    exact Lands.pure _

end ScopeBuilder

end ScriptGate
