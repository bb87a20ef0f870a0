import ScriptGate.Syntax.Tree
import ScriptGate.Decimal.Text
import ScriptGate.Syntax.Numeral
import ScriptGate.Refusal

/-!
# Member paths and patterns

A member chain such as `fs.promises.readFile` reduces to a dotted *path* when
its root is an identifier and each link names its property plainly, or by a
string or integral number between brackets.  Any other computed link, or a
root that is not an identifier (a call, `this`), leaves the chain without a
path, and it is never matched.  Optional links read like plain ones:
`a?.b` and `a["b"]` both have the path `a.b`.  The links are read from the
outermost in, and the first that names no property ends the reading.  An
integer link whose decimal text would be longer than `Numeral.digitLimit`
digits cannot be spelled: reading it fails, and the failure is a `PathFault`.

A *pattern* is an exact path or a wildcard `p.*`, which matches the paths
strictly below `p`.  A set of patterns matches a path by its most specific
pattern: the path itself when it is among the exact patterns, otherwise the
wildcard with the longest prefix, ties going to the smaller text.
-/

namespace ScriptGate

/-- Why a member chain cannot be spelled as a path. -/
inductive PathFault where
  /-- A link is an integer with more decimal digits than a number may be written with. -/
  | longInteger
deriving DecidableEq, Repr, Inhabited

/-- The message of a path fault. -/
def PathFault.message : PathFault → String
  | .longInteger =>
    "Exceeds the limit (4300 digits) for integer string conversion; " ++
      "use sys.set_int_max_str_digits() to increase the limit"

/-- The refusal that a path fault is where no analysis absorbs it: a bad value. -/
def PathFault.toRefusal : PathFault → Refusal
  | .longInteger => .badValue none

namespace Node

/-- The property a link of a member chain names, if it names one plainly: an
identifier after a dot, or between brackets a string, or a number without a
fraction written in decimal.  An integer too long to write fails. -/
def segment? : Node → Except PathFault (Option String)
  | memberExpression _ _ p computed _ =>
    if !computed then
      match p with
      | identifier _ name => .ok (some name)
      | _ => .ok none
    else
      match p with
      | literal _ v _ none _ =>
        match v with
        | .string s => .ok (some s)
        | .int n => if Numeral.printable n then .ok (some (toString n)) else .error .longInteger
        | .float x => .ok (if Decimal.isWhole x then (Decimal.truncate x).map toString else none)
        | .bool _ | .null => .ok none
      | _ => .ok none
  | _ => .ok none

/-- A node without the optional-chain wrappers around it. -/
def unwrapChain : Node → Node
  | chainExpression _ e => unwrapChain e
  | n => n

/-- The innermost object of a member chain, through optional-chain wrappers. -/
def memberRoot : Node → Node
  | chainExpression _ e => memberRoot e
  | memberExpression _ o .. => memberRoot o
  | n => n

/-- The path segments of a member chain, outermost first, read until a link
names no property; `none` when one does not. -/
def pathParts : Node → Except PathFault (Option (List String))
  | chainExpression _ e => pathParts e
  | m@(memberExpression _ o ..) => do
    match ← m.segment? with
    | some s => return (← pathParts o).map (s :: ·)
    | none => return none
  | _ => .ok (some [])

/-- The dotted path of a member chain, if it has one: its links must all name
their properties, and its root must be an identifier. -/
def memberPath? (n : Node) : Except PathFault (Option String) := do
  match ← pathParts n, memberRoot n with
  | some parts, identifier _ name => return some (".".intercalate (name :: parts.reverse))
  | _, _ => return none

/-- The root of a member chain. -/
def root (n : Node) : Node := memberRoot n

/-- The node under the optional-chain wrappers. -/
def unwrapped (n : Node) : Node := unwrapChain n

end Node

/-- A pattern over paths: an exact path, or a wildcard ending in `.*`. -/
structure MemberPattern where
  /-- The text of the pattern. -/
  text : String
deriving DecidableEq, Repr, Inhabited

namespace MemberPattern

/-- Whether the pattern is a wildcard. -/
def isWildcard (p : MemberPattern) : Bool := p.text.endsWith ".*"

/-- The path below which a wildcard matches; an exact pattern's whole text. -/
def pre (p : MemberPattern) : String :=
  if p.isWildcard then String.ofList (p.text.toList.take (p.text.length - 2)) else p.text

/-- Whether the pattern matches a path: a wildcard every path that starts with its
prefix and a dot, an exact pattern its own text. -/
def covers (p : MemberPattern) (path : String) : Bool :=
  if p.isWildcard then path.startsWith (p.pre ++ ".") else path = p.text

end MemberPattern

/-- A set of patterns: the exact paths, and the wildcards from the longest prefix
down, ties ordered by text. -/
structure PatternSet where
  /-- The exact patterns. -/
  exact : List String
  /-- The wildcards, in the order they are tried. -/
  wildcards : List MemberPattern
deriving Inhabited

namespace PatternSet

/-- Whether wildcard `p` is tried before `q`: a longer prefix first, then the smaller text. -/
def triedBefore (p q : MemberPattern) : Bool :=
  p.pre.length > q.pre.length || (p.pre.length == q.pre.length && decide (p.text ≤ q.text))

/-- The set of the patterns in a list. -/
def ofList (patterns : List String) : PatternSet :=
  let ps := patterns.map MemberPattern.mk
  { exact := (ps.filter (!·.isWildcard)).map (·.text),
    wildcards := (ps.filter (·.isWildcard)).mergeSort triedBefore }

/-- Whether the set holds any pattern. -/
def nonempty (s : PatternSet) : Bool := !s.exact.isEmpty || !s.wildcards.isEmpty

/-- The pattern that matches a path: the path itself if it is exact, otherwise the
first wildcard tried that matches. -/
def match? (s : PatternSet) (path : String) : Option String :=
  if s.exact.contains path then some path
  else (s.wildcards.find? (·.covers path)).map (·.text)

end PatternSet

end ScriptGate
