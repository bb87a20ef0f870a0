import ScriptGate.Yaml.Node

/-!
# Values of a YAML document

A document's graph of nodes becomes a value by the tags of its nodes.

* `null`, `bool`, `int`, `float`, `binary`, `timestamp` and `str` are scalar
  tags: the node's text, read by `Schema`, gives the value.  A mapping node
  gives its text through its `=` key, when it has one.
* `seq` is a list of the values of the items; `omap` and `pairs` are lists of
  pairs, from a sequence of mappings of one entry each; `set` is the keys of a
  mapping; `map` is a mapping.  A node of another shape is a fault.
* In a mapping, a `<<` key merges the mapping it names, or each of a sequence of
  mappings with the earlier ones winning, before the mapping's own entries; a
  `=` key is the string `=`.  A key must be a scalar; of keys that are the same
  (`Value.same`) the first stays, with the last value.
* A tag with no meaning is a fault.

Values are built in the order a reader that defers collections would build
them: first the root, then, round by round, the collections found in the
round before, each with the scalars in it, so that of two faults the one met
first in that order is reported.  A collection that holds itself gives a cycle
mark where it is met again.
-/

namespace ScriptGate.Yaml

/-- What a tag builds. -/
inductive Build where
  /-- A scalar value from the node's text. -/
  | scalar
  /-- A list. -/
  | list
  /-- A mapping. -/
  | map
  /-- A set. -/
  | set
  /-- A list of pairs. -/
  | pairs
  /-- Nothing: the tag has no meaning. -/
  | unknown
deriving DecidableEq, Inhabited

namespace Build

/-- What a tag builds. -/
def ofTag (tag : String) : Build :=
  if [Schema.nullTag, Schema.boolTag, Schema.intTag, Schema.floatTag, Schema.binaryTag,
      Schema.timestampTag, Schema.strTag].contains tag then .scalar
  else if tag = Schema.seqTag then .list
  else if tag = Schema.mapTag then .map
  else if tag = Schema.setTag then .set
  else if tag = Schema.omapTag || tag = Schema.pairsTag then .pairs
  else .unknown

end Build

/-- An entry of a mapping: its key, its value, and whether the key is read as a
string whatever its tag. -/
structure Entry where
  /-- The key node. -/
  key : Nat
  /-- The value node. -/
  value : Nat
  /-- Whether the key reads as the string of its text. -/
  asText : Bool := false
deriving Inhabited

namespace Graph

/-- Stops with a constructing fault. -/
def constructFault {α : Type} : Result α := throw (.malformedYaml .constructing)

/-- The text of a node that stands for a scalar: a scalar's text, or the text of the
value of a mapping's `=` key. -/
def scalarText (g : Graph) : Nat → Nat → Result GlyphText
  | 0, _ => throw .tooDeep
  | fuel + 1, id =>
    match g.get id with
    | .scalar _ text => pure text
    | .mapping _ pairs =>
      match pairs.find? fun (k, _) => (g.get k).tag == Schema.valueTag with
      | some (_, v) => scalarText g fuel v
      | none => constructFault
    | .sequence .. => constructFault

/-- The value of a node whose tag is a scalar tag. -/
def scalarValue (g : Graph) (id : Nat) : Result Value := do
  let node := g.get id
  let text ← g.scalarText (g.nodes.size + 1) id
  let cs := text.chars
  let tag := node.tag
  if tag = Schema.nullTag then return .null
  else if tag = Schema.boolTag then return .bool (← Schema.boolValue cs)
  else if tag = Schema.intTag then return .int (← Schema.intValue cs)
  else if tag = Schema.floatTag then return .float (← Schema.floatValue cs)
  else if tag = Schema.binaryTag then return .bytes (← Schema.binaryValue cs)
  else if tag = Schema.timestampTag then return .stamp (← Schema.timestampValue cs)
  else return Value.ofText text

/-- The entries of a mapping with its merges done: the entries of merged mappings
first, then its own.  `open_` are the mappings being merged now; one met again
gives its own entries. -/
def flatten (g : Graph) : Nat → List Nat → Nat → Result (List Entry)
  | 0, _, _ => throw .tooDeep
  | fuel + 1, open_, id => do
    let pairs := match g.get id with
      | .mapping _ pairs => pairs
      | _ => []
    let own (pairs : List (Nat × Nat)) : List Entry :=
      (pairs.filter fun (k, _) => (g.get k).tag != Schema.mergeTag).map fun (k, v) =>
        { key := k, value := v, asText := (g.get k).tag == Schema.valueTag }
    let mut merged : List Entry := []
    for (k, v) in pairs do
      if (g.get k).tag == Schema.mergeTag then
        match g.get v with
        | .mapping _ inner =>
          if open_.contains v then merged := merged ++ own inner
          else merged := merged ++ (← flatten g fuel (id :: open_) v)
        | .sequence _ items =>
          let mut parts : List (List Entry) := []
          for item in items do
            match g.get item with
            | .mapping _ inner =>
              if open_.contains item || item = id then parts := parts ++ [own inner]
              else parts := parts ++ [← flatten g fuel (id :: open_) item]
            | _ => constructFault
          merged := merged ++ parts.reverse.flatten
        | _ => constructFault
    return merged ++ own pairs

/-- The state of the first pass: which nodes are built, and the collections of the
next round. -/
structure Pass where
  /-- The nodes built so far. -/
  built : Array Bool
  /-- The collections to fill in the next round. -/
  next : List Nat := []

/-- Builds a node as the first pass does: a scalar now, a collection in the next
round; a node already built is skipped.  Says whether its value can be a key. -/
def prime (g : Graph) (id : Nat) : StateT Pass (Except Refusal) Bool := do
  let kind := Build.ofTag (g.get id).tag
  if (← getThe Pass).built.getD id false then return kind == Build.scalar
  match kind with
  | .scalar =>
    let _ ← (g.scalarValue id : Result Value)
    modify fun p => { p with built := p.built.set! id true }
    return true
  | .unknown => constructFault
  | _ =>
    modify fun p => { p with built := p.built.set! id true, next := p.next ++ [id] }
    return false

/-- Fills a collection as the first pass does, checking its shape, its merges and
its keys. -/
def fill (g : Graph) (id : Nat) : StateT Pass (Except Refusal) Unit := do
  let node := g.get id
  match Build.ofTag node.tag, node with
  | .list, .sequence _ items =>
    for item in items do let _ ← prime g item
  | .map, .mapping .. | .set, .mapping .. =>
    let entries ← (g.flatten (g.nodes.size + 1) [] id : Result (List Entry))
    for e in entries do
      let hashable ← if e.asText then pure true else prime g e.key
      if !hashable then constructFault
      let _ ← prime g e.value
  | .pairs, .sequence _ items =>
    for item in items do
      match g.get item with
      | .mapping _ [(k, v)] =>
        let _ ← prime g k
        let _ ← prime g v
      | _ => constructFault
  | _, _ => constructFault

/-- The first pass: every node reachable from the root is built once, round by round,
and the first fault met is the answer. -/
def check (g : Graph) : Result Unit := do
  let start : Pass := { built := Array.replicate g.nodes.size false }
  let run : StateT Pass (Except Refusal) Unit := do
    let _ ← prime g g.root
    for _ in [0:g.nodes.size + 1] do
      let batch := (← getThe Pass).next
      if batch.isEmpty then break
      modify fun p => { p with next := [] }
      for id in batch do fill g id
  let _ ← run.run start
  return ()

/-- Puts an entry into a mapping: a new key at the end, a key already there keeps its
place and takes the new value. -/
def putEntry (entries : List (Value × Value)) (k v : Value) : List (Value × Value) :=
  if entries.any fun (k', _) => Value.same k' k then
    entries.map fun (k', v') => if Value.same k' k then (k', v) else (k', v')
  else entries ++ [(k, v)]

/-- The value of a node; `path` are the collections it stands in. -/
def build (g : Graph) : Nat → List Nat → Nat → Result Value
  | 0, _, _ => throw .tooDeep
  | fuel + 1, path, id => do
    let node := g.get id
    let kind := Build.ofTag node.tag
    if path.contains id then
      return .cycle (kind == .map || kind == .set)
    match kind, node with
    | .scalar, _ => g.scalarValue id
    | .list, .sequence _ items =>
      return .list (← items.mapM (build g fuel (id :: path)))
    | .map, .mapping .. | .set, .mapping .. =>
      let entries ← g.flatten (g.nodes.size + 1) [] id
      let mut out : List (Value × Value) := []
      for e in entries do
        let k ← if e.asText then pure (Value.ofText ((g.scalarText 1 e.key).toOption.getD []))
          else build g fuel (id :: path) e.key
        let v ← build g fuel (id :: path) e.value
        out := putEntry out k v
      if kind == .set then return .set (out.map (·.1))
      else return Value.ofEntries out
    | .pairs, .sequence _ items =>
      let pairs ← items.mapM fun item => do
        match g.get item with
        | .mapping _ [(k, v)] =>
          return Value.tuple [← build g fuel (id :: path) k, ← build g fuel (id :: path) v]
        | _ => constructFault
      return .list pairs
    | _, _ => constructFault

end Graph

/-- Whether a character may stand in a YAML text: a tab, a line feed, a carriage
return, printable ASCII, U+0085, and the rest of the Basic Multilingual Plane
from U+00A0 except the surrogates, U+FFFE and U+FFFF, and every character beyond. -/
def isAllowedChar (c : Char) : Bool :=
  let n := c.toNat
  n = 0x09 || n = 0x0A || n = 0x0D || (0x20 ≤ n && n ≤ 0x7E) || n = 0x85 ||
    (0xA0 ≤ n && n ≤ 0xD7FF) || (0xE000 ≤ n && n ≤ 0xFFFD) || 0x10000 ≤ n

/-- The value of a YAML text: null when it has no document.  A text with a character
that may not stand in YAML does not read at all. -/
def load (text : String) : Result Value := do
  if !text.toList.all isAllowedChar then throw (.malformedYaml .decoding)
  match ← Graph.ofText text with
  | none => return .null
  | some g =>
    g.check
    g.build (g.nodes.size + 1) [] g.root

end ScriptGate.Yaml
