import ScriptGate.Api.Parse
import ScriptGate.Purity.Analysis
import ScriptGate.Diagnostic.Snippet

/-!
# Purity, member paths and patterns, as data

The answers of the purity analysis of a source, of the member chains of a
source with their paths, and of matching paths against a set of patterns.
-/

namespace ScriptGate

/-- A violation as data, located in a file when one is named, with its snippet. -/
def Violation.toValue (source : GlyphText) (file : Option String) (v : Violation) : Value :=
  let loc := v.location file
  .obj [("kind", .str v.kind.name), ("pattern", .str v.pattern), ("message", .str v.message),
    ("location", loc.toValue), ("snippet", .glyphs (snippet source loc))]

/-- The purity of a source, or its syntax errors. -/
def purityOf (source : GlyphText) (format : ModuleFormat) (allowance : Purity.Allowance)
    (file : Option String) : Except ReadFailure Value :=
  withProgram source format fun p =>
    let vs := analyzePurity allowance p
    .obj [("parsed", .bool true), ("valid", .bool vs.isEmpty),
      ("violations", .list (vs.map (Violation.toValue source file)))]

/-- A member chain as data: its type, span, path, the type of its root and the
property of its outermost member. -/
def memberValue (n : Node) : Except PathFault Value := do
  let property ← match n.unwrapped with
    | m@(.memberExpression ..) => m.segment?
    | _ => pure none
  let path ← n.memberPath?
  return .obj [("type", .str n.typeName), ("loc", n.span.toValue),
    ("path", Value.ofOption Value.str path), ("root", .str n.root.typeName),
    ("property", Value.ofOption Value.str property)]

/-- The member chains of a source in pre-order, or its syntax errors; refused
when a chain cannot be spelled. -/
def memberPathsOf (source : GlyphText) : Except Refusal Value := do
  let r ← (readSource source .infer 10).mapError ReadFailure.toRefusal
  match r.program with
  | some p =>
    let members := p.nodes.filter fun n =>
      match n with
      | .memberExpression .. | .chainExpression .. => true
      | _ => false
    match members.mapM memberValue with
    | .ok vs => return .obj [("parsed", .bool true), ("members", .list vs)]
    | .error f => throw f.toRefusal
  | none => return unparsedValue r.errors

/-- The pattern of a set that matches each path, and whether the set holds any. -/
def matchValue (patterns paths : List String) : Value :=
  let set := PatternSet.ofList patterns
  .obj [("nonempty", .bool set.nonempty),
    ("matches", .list (paths.map fun p => Value.ofOption Value.str (set.match? p)))]

end ScriptGate
