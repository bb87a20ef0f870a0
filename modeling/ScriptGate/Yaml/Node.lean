import ScriptGate.Yaml.Event
import ScriptGate.Yaml.Schema

/-!
# YAML nodes

The events of a document form a graph of *nodes*: scalars with their text,
sequences of nodes and mappings of pairs of nodes, each with a tag.  An alias
is the node its anchor names, so a node may be reached more than once, and a
collection may hold itself when an alias inside it names its anchor.

* A node's tag is the one its properties give; without one, or with the
  non-specific tag `!`, a plain scalar gets the tag its text matches
  (`Schema.implicitTag`), any other scalar `str`, a sequence `seq` and a
  mapping `map`.
* An anchor is named when its node starts, so it may be used inside the node.
  An alias to a name not yet anchored, and an anchor given twice in one
  document, are faults.
* A text holds at most one document; a text without one has no root.
-/

namespace ScriptGate.Yaml

/-- A node of a YAML document; collections hold the numbers of their nodes. -/
inductive Node where
  /-- A scalar, its tag and text. -/
  | scalar (tag : String) (text : GlyphText)
  /-- A sequence, its tag and items. -/
  | sequence (tag : String) (items : List Nat)
  /-- A mapping, its tag and pairs of key and value. -/
  | mapping (tag : String) (pairs : List (Nat × Nat))
deriving Inhabited

namespace Node

/-- The tag of a node. -/
def tag : Node → String
  | scalar t _ | sequence t _ | mapping t _ => t

end Node

/-- The nodes of a document, numbered, and the number of its root. -/
structure Graph where
  /-- The nodes. -/
  nodes : Array Node
  /-- The root. -/
  root : Nat
deriving Inhabited

/-- The state of gathering the nodes of a text. -/
structure Composer where
  /-- The events. -/
  reader : EventReader
  /-- The nodes so far. -/
  nodes : Array Node := #[]
  /-- The anchors of the document so far. -/
  anchors : List (String × Nat) := []
  /-- A bound on the events of the text, and so on the turns of every loop. -/
  bound : Nat
deriving Inhabited

/-- A step of gathering nodes. -/
abbrev ComposeM := StateT Composer (Except Refusal)

namespace ComposeM

/-- Runs a step of the event reader. -/
def events {α : Type} (m : EventM α) : ComposeM α := do
  let c ← get
  let (a, r) ← (m.run c.reader : Except Refusal (α × EventReader))
  set { c with reader := r }
  return a

/-- Stops with a composing fault. -/
def composeFault {α : Type} : ComposeM α := throw (.malformedYaml .composing)

/-- The next event. -/
def peekEvent : ComposeM (Option Event) := events EventM.peek

/-- Takes the next event. -/
def takeEvent : ComposeM Unit := do let _ ← events EventM.take

/-- Whether the next event passes `p`. -/
def nextIs (p : Event → Bool) : ComposeM Bool := do
  match ← peekEvent with
  | some e => return p e
  | none => return false

/-- Adds a node and gives its number. -/
def add (n : Node) : ComposeM Nat := do
  let c ← get
  set { c with nodes := c.nodes.push n }
  return c.nodes.size

/-- Names a node by an anchor, when there is one. -/
def register (anchor : Option String) (id : Nat) : ComposeM Unit := do
  if let some a := anchor then
    modify fun c => { c with anchors := (a, id) :: c.anchors }

/-- A tag, or the default when there is none or only `!`. -/
def tagOr (tag : Option String) (default : String) : String :=
  match tag with
  | none => default
  | some t => if t = "!" then default else t

/-- Whether an event ends a sequence. -/
def isSequenceEnd : Event → Bool
  | .sequenceEnd => true
  | _ => false

/-- Whether an event ends a mapping. -/
def isMappingEnd : Event → Bool
  | .mappingEnd => true
  | _ => false

/-- Whether an event ends the text. -/
def isStreamEnd : Event → Bool
  | .streamEnd => true
  | _ => false

/-- A node and everything in it, as its number. -/
def node : Nat → ComposeM Nat
  | 0 => throw .tooDeep
  | fuel + 1 => do
    let some e ← peekEvent | composeFault
    match e with
    | .alias name =>
      takeEvent
      match (← get).anchors.lookup name with
      | some id => return id
      | none => composeFault
    | _ =>
      let anchor := e.anchor?
      if let some a := anchor then
        if ((← get).anchors.lookup a).isSome then composeFault
      match e with
      | .scalar _ tag implicit text =>
        takeEvent
        let resolved := match tag with
          | some t => if t = "!" then
              (if implicit then Schema.implicitTag text.chars else Schema.strTag)
            else t
          | none => if implicit then Schema.implicitTag text.chars else Schema.strTag
        let id ← add (.scalar resolved text)
        register anchor id
        return id
      | .sequenceStart _ tag =>
        takeEvent
        let t := tagOr tag Schema.seqTag
        let id ← add (.sequence t [])
        register anchor id
        let mut items : List Nat := []
        for _ in [0:(← get).bound] do
          if ← nextIs isSequenceEnd then break
          items := items ++ [← node fuel]
        takeEvent
        modify fun c => { c with nodes := c.nodes.set! id (.sequence t items) }
        return id
      | .mappingStart _ tag =>
        takeEvent
        let t := tagOr tag Schema.mapTag
        let id ← add (.mapping t [])
        register anchor id
        let mut pairs : List (Nat × Nat) := []
        for _ in [0:(← get).bound] do
          if ← nextIs isMappingEnd then break
          let k ← node fuel
          let v ← node fuel
          pairs := pairs ++ [(k, v)]
        takeEvent
        modify fun c => { c with nodes := c.nodes.set! id (.mapping t pairs) }
        return id
      | _ => composeFault

/-- The one document of a text, if it has one. -/
def document : ComposeM (Option Nat) := do
  takeEvent
  let mut root : Option Nat := none
  if !(← nextIs isStreamEnd) then
    takeEvent
    root := some (← node (← get).bound)
    takeEvent
    modify fun c => { c with anchors := [] }
  if !(← nextIs isStreamEnd) then
    takeEvent
    composeFault
  takeEvent
  return root

end ComposeM

namespace Graph

/-- The graph of the one document of a text, or `none` for a text without one. -/
def ofText (text : String) : Except Refusal (Option Graph) := do
  let lexer := Lexer.ofText text
  let start : Composer := { reader := { lexer }, bound := 16 * (lexer.text.size + 2) }
  let (root, c) ← ComposeM.document.run start
  return root.map fun r => { nodes := c.nodes, root := r }

/-- The node of a number. -/
def get (g : Graph) (id : Nat) : Node := g.nodes.getD id default

end Graph

end ScriptGate.Yaml
