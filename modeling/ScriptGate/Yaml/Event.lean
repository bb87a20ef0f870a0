import ScriptGate.Yaml.Token.Lexer

/-!
# YAML events

Events are the tokens read as a tree walk: a document starts, a collection
starts, a scalar or alias stands, a collection ends.  The event reader is a
machine whose state says what may come next, with a stack of the states to
return to when a node is done.

* A node is an alias, or an optional anchor and tag (in either order) and then
  a scalar, a bracketed collection, or, in block context, a block collection.
  Properties with nothing after them make an empty scalar.
* A key or value that the text leaves out is an empty scalar; so is the
  content of a document that has none.
* In a block mapping a sequence may stand at the key's own indentation: its
  entries are read until something other than an entry comes.
* In a flow sequence a single `key: value` pair makes a mapping of one entry.
* A tag `!handle!suffix` is the handle's prefix and the suffix.  The handles
  `!` and `!!` stand for `!` and `tag:yaml.org,2002:` unless a `%TAG`
  directive of the document says otherwise; another handle must be declared.
* A document of directives must start with `---`; a `%YAML` directive must be of
  major version 1 and given at most once, and a handle declared at most once.

The reader reads tokens only as it needs them, so a fault of the text is found
when the reader reaches it.
-/

namespace ScriptGate.Yaml

/-- An event of a YAML text. -/
inductive Event where
  /-- The text starts. -/
  | streamStart
  /-- The text ends. -/
  | streamEnd
  /-- A document starts. -/
  | documentStart
  /-- A document ends. -/
  | documentEnd
  /-- A reference to an anchored node. -/
  | alias (name : String)
  /-- A scalar: its anchor, its tag, whether its tag is to be found from its text,
  and its text. -/
  | scalar (anchor : Option String) (tag : Option String) (implicit : Bool) (text : GlyphText)
  /-- A sequence starts. -/
  | sequenceStart (anchor : Option String) (tag : Option String)
  /-- A sequence ends. -/
  | sequenceEnd
  /-- A mapping starts. -/
  | mappingStart (anchor : Option String) (tag : Option String)
  /-- A mapping ends. -/
  | mappingEnd
deriving Inhabited

namespace Event

/-- The anchor an event gives its node. -/
def anchor? : Event → Option String
  | scalar a .. | sequenceStart a _ | mappingStart a _ => a
  | _ => none

end Event

/-- What the event reader expects next. -/
inductive Expect where
  /-- The start of the stream. -/
  | streamStart
  /-- The first document, which may begin without `---`. -/
  | implicitDocumentStart
  /-- A further document, which begins with `---`, or the end of the stream. -/
  | documentStart
  /-- The end of a document, with or without `...`. -/
  | documentEnd
  /-- The node of a document that began with `---`, or none. -/
  | documentContent
  /-- A block node: the root of a document. -/
  | blockNode
  /-- The first entry of a block sequence. -/
  | blockSequenceFirstEntry
  /-- A further entry of a block sequence, or its end. -/
  | blockSequenceEntry
  /-- An entry of a sequence at the indentation of its key, or its end. -/
  | indentlessSequenceEntry
  /-- The first key of a block mapping. -/
  | blockMappingFirstKey
  /-- A further key of a block mapping, or its end. -/
  | blockMappingKey
  /-- The value of a block mapping key. -/
  | blockMappingValue
  /-- The first entry of a flow sequence, or its end. -/
  | flowSequenceFirstEntry
  /-- A further entry of a flow sequence after a comma, or its end. -/
  | flowSequenceEntry
  /-- The key of a single pair entry of a flow sequence. -/
  | flowSequencePairKey
  /-- The value of a single pair entry of a flow sequence. -/
  | flowSequencePairValue
  /-- The end of a single pair entry of a flow sequence. -/
  | flowSequencePairEnd
  /-- The first key of a flow mapping, or its end. -/
  | flowMappingFirstKey
  /-- A further key of a flow mapping after a comma, or its end. -/
  | flowMappingKey
  /-- The value of a flow mapping key. -/
  | flowMappingValue
  /-- The empty value of a flow mapping key given without a colon. -/
  | flowMappingEmptyValue
deriving Inhabited

/-- The tag handles every document has. -/
def defaultHandles : List (String × String) := [("!", "!"), ("!!", "tag:yaml.org,2002:")]

/-- The state of reading events. -/
structure EventReader where
  /-- The tokens. -/
  lexer : Lexer
  /-- What comes next; `none` after the end. -/
  expect : Option Expect := some .streamStart
  /-- What to expect after the nodes now open, innermost first. -/
  stack : List Expect := []
  /-- The tag handles of the document. -/
  handles : List (String × String) := defaultHandles
  /-- An event read and not yet taken. -/
  current : Option Event := none
deriving Inhabited

/-- A step of reading events. -/
abbrev EventM := StateT EventReader (Except Refusal)

namespace EventM

/-- Runs a step of the lexer. -/
def lex {α : Type} (m : LexM α) : EventM α := do
  let r ← get
  let (a, l) ← (m.run r.lexer : Except Refusal (α × Lexer))
  set { r with lexer := l }
  return a

/-- Stops with a parsing fault. -/
def parseFault {α : Type} : EventM α := throw (.malformedYaml .parsing)

/-- Whether the next token passes `p`. -/
def next (p : Token → Bool) : EventM Bool := do
  match ← lex Lexer.peekToken with
  | some t => return p t
  | none => return false

/-- Whether the next token is of one of the kinds of `ts`. -/
def nextIs (ts : List Token) : EventM Bool := next fun t => ts.any (Token.sameKind t)

/-- Takes the next token. -/
def takeToken : EventM (Option Token) := lex Lexer.takeToken

/-- Expects `e` next. -/
def expectNext (e : Expect) : EventM Unit := modify fun r => { r with expect := some e }

/-- Expects next what the innermost open node returns to. -/
def popExpect : EventM Unit := modify fun r =>
  match r.stack with
  | e :: rest => { r with expect := some e, stack := rest }
  | [] => { r with expect := none }

/-- Remembers what to expect after the node that starts now. -/
def pushExpect (e : Expect) : EventM Unit := modify fun r => { r with stack := e :: r.stack }

/-- An empty plain scalar. -/
def empty : Event := .scalar none none true []

/-- The directives before an explicit document, which set its tag handles. -/
def directives : EventM Unit := do
  let mut version := false
  let mut handles : List (String × String) := []
  for _ in [0:(← get).lexer.text.size + 2] do
    if !(← nextIs [.directive (.other "")]) then break
    match ← takeToken with
    | some (.directive (.version major _)) =>
      if version then parseFault
      if major != 1 then parseFault
      version := true
    | some (.directive (.tagPrefix handle pre)) =>
      if (handles.lookup handle).isSome then parseFault
      handles := handles ++ [(handle, pre)]
    | _ => pure ()
  let missing := defaultHandles.filter fun (h, _) => (handles.lookup h).isNone
  modify fun r => { r with handles := handles ++ missing }

/-- A node, with its properties.  `block` allows a block collection; `indentless`
allows a sequence at the indentation of the key it is the value of. -/
def node (block indentless : Bool) : EventM Event := do
  if ← nextIs [.alias ""] then
    match ← takeToken with
    | some (.alias name) =>
      popExpect
      return .alias name
    | _ => parseFault
  let mut anchor : Option String := none
  let mut tag : Option (Option String × String) := none
  if ← nextIs [.anchor ""] then
    if let some (.anchor a) ← takeToken then anchor := some a
    if ← nextIs [.tag none ""] then
      if let some (.tag h s) ← takeToken then tag := some (h, s)
  else if ← nextIs [.tag none ""] then
    if let some (.tag h s) ← takeToken then tag := some (h, s)
    if ← nextIs [.anchor ""] then
      if let some (.anchor a) ← takeToken then anchor := some a
  let tagName : Option String ← match tag with
    | some (some handle, suffix) =>
      match (← get).handles.lookup handle with
      | some pre => pure (some (pre ++ suffix))
      | none => parseFault
    | some (none, suffix) => pure (some suffix)
    | none => pure none
  let untagged := tagName.isNone || tagName == some "!"
  if indentless && (← nextIs [.blockEntry]) then
    expectNext .indentlessSequenceEntry
    return .sequenceStart anchor tagName
  match ← lex Lexer.peekToken with
  | some (.scalar text style) =>
    let _ ← takeToken
    popExpect
    let implicit := (style == .plain && tagName.isNone) || tagName == some "!"
    return .scalar anchor tagName implicit text
  | some .flowSequenceStart =>
    expectNext .flowSequenceFirstEntry
    return .sequenceStart anchor tagName
  | some .flowMappingStart =>
    expectNext .flowMappingFirstKey
    return .mappingStart anchor tagName
  | some .blockSequenceStart =>
    if block then
      expectNext .blockSequenceFirstEntry
      return .sequenceStart anchor tagName
    else if anchor.isSome || tagName.isSome then
      popExpect
      return .scalar anchor tagName untagged []
    else parseFault
  | some .blockMappingStart =>
    if block then
      expectNext .blockMappingFirstKey
      return .mappingStart anchor tagName
    else if anchor.isSome || tagName.isSome then
      popExpect
      return .scalar anchor tagName untagged []
    else parseFault
  | _ =>
    if anchor.isSome || tagName.isSome then
      popExpect
      return .scalar anchor tagName untagged []
    else parseFault

/-- The start of a document, or the end of the text. -/
def documentStart : EventM Event := do
  for _ in [0:(← get).lexer.text.size + 2] do
    if ← nextIs [.documentEnd] then let _ ← takeToken else break
  if ← nextIs [.streamEnd] then
    let _ ← takeToken
    modify fun r => { r with expect := none }
    return .streamEnd
  directives
  if !(← nextIs [.documentStart]) then parseFault
  let _ ← takeToken
  pushExpect .documentEnd
  expectNext .documentContent
  return .documentStart

/-- An entry of a block sequence, or its end. -/
def blockSequenceEntry : EventM Event := do
  if ← nextIs [.blockEntry] then
    let _ ← takeToken
    if !(← nextIs [.blockEntry, .blockEnd]) then
      pushExpect .blockSequenceEntry
      node true false
    else
      expectNext .blockSequenceEntry
      return empty
  else if ← nextIs [.blockEnd] then
    let _ ← takeToken
    popExpect
    return .sequenceEnd
  else parseFault

/-- A key of a block mapping, or its end. -/
def blockMappingKey : EventM Event := do
  if ← nextIs [.key] then
    let _ ← takeToken
    if !(← nextIs [.key, .value, .blockEnd]) then
      pushExpect .blockMappingValue
      node true true
    else
      expectNext .blockMappingValue
      return empty
  else if ← nextIs [.blockEnd] then
    let _ ← takeToken
    popExpect
    return .mappingEnd
  else parseFault

/-- An entry of a flow sequence, or its end; `first` when no comma is due. -/
def flowSequenceEntry (first : Bool) : EventM Event := do
  if !(← nextIs [.flowSequenceEnd]) then
    if !first then
      if ← nextIs [.flowEntry] then let _ ← takeToken
      else parseFault
    if ← nextIs [.key] then
      expectNext .flowSequencePairKey
      return .mappingStart none none
    else if !(← nextIs [.flowSequenceEnd]) then
      pushExpect .flowSequenceEntry
      return ← node false false
  let _ ← takeToken
  popExpect
  return .sequenceEnd

/-- A key of a flow mapping, or its end; `first` when no comma is due. -/
def flowMappingKey (first : Bool) : EventM Event := do
  if !(← nextIs [.flowMappingEnd]) then
    if !first then
      if ← nextIs [.flowEntry] then let _ ← takeToken
      else parseFault
    if ← nextIs [.key] then
      let _ ← takeToken
      if !(← nextIs [.value, .flowEntry, .flowMappingEnd]) then
        pushExpect .flowMappingValue
        return ← node false false
      else
        expectNext .flowMappingValue
        return empty
    else if !(← nextIs [.flowMappingEnd]) then
      pushExpect .flowMappingEmptyValue
      return ← node false false
  let _ ← takeToken
  popExpect
  return .mappingEnd

/-- A value after a `:`, or an empty one; `ends` are the tokens after which none is
given, `then_` what comes after the value. -/
def valueOr (ends : List Token) (then_ : Expect) (nested : EventM Event) : EventM Event := do
  if ← nextIs [.value] then
    let _ ← takeToken
    if !(← nextIs ends) then
      pushExpect then_
      nested
    else
      expectNext then_
      return empty
  else
    expectNext then_
    return empty

/-- The next event, as the state says. -/
def step : Expect → EventM Event
  | .streamStart => do
    let _ ← takeToken
    expectNext .implicitDocumentStart
    return .streamStart
  | .implicitDocumentStart => do
    if !(← nextIs [.directive (.other ""), .documentStart, .streamEnd]) then
      modify fun r => { r with handles := defaultHandles }
      pushExpect .documentEnd
      expectNext .blockNode
      return .documentStart
    else documentStart
  | .documentStart => documentStart
  | .documentEnd => do
    if ← nextIs [.documentEnd] then let _ ← takeToken
    expectNext .documentStart
    return .documentEnd
  | .documentContent => do
    if ← nextIs [.directive (.other ""), .documentStart, .documentEnd, .streamEnd] then
      popExpect
      return empty
    else node true false
  | .blockNode => node true false
  | .blockSequenceFirstEntry => do
    let _ ← takeToken
    blockSequenceEntry
  | .blockSequenceEntry => blockSequenceEntry
  | .indentlessSequenceEntry => do
    if ← nextIs [.blockEntry] then
      let _ ← takeToken
      if !(← nextIs [.blockEntry, .key, .value, .blockEnd]) then
        pushExpect .indentlessSequenceEntry
        node true false
      else
        expectNext .indentlessSequenceEntry
        return empty
    else
      popExpect
      return .sequenceEnd
  | .blockMappingFirstKey => do
    let _ ← takeToken
    blockMappingKey
  | .blockMappingKey => blockMappingKey
  | .blockMappingValue => do
    if ← nextIs [.value] then
      let _ ← takeToken
      if !(← nextIs [.key, .value, .blockEnd]) then
        pushExpect .blockMappingKey
        node true true
      else
        expectNext .blockMappingKey
        return empty
    else
      expectNext .blockMappingKey
      return empty
  | .flowSequenceFirstEntry => do
    let _ ← takeToken
    flowSequenceEntry true
  | .flowSequenceEntry => flowSequenceEntry false
  | .flowSequencePairKey => do
    let _ ← takeToken
    if !(← nextIs [.value, .flowEntry, .flowSequenceEnd]) then
      pushExpect .flowSequencePairValue
      node false false
    else
      expectNext .flowSequencePairValue
      return empty
  | .flowSequencePairValue =>
    valueOr [.flowEntry, .flowSequenceEnd] .flowSequencePairEnd (node false false)
  | .flowSequencePairEnd => do
    expectNext .flowSequenceEntry
    return .mappingEnd
  | .flowMappingFirstKey => do
    let _ ← takeToken
    flowMappingKey true
  | .flowMappingKey => flowMappingKey false
  | .flowMappingValue =>
    valueOr [.flowEntry, .flowMappingEnd] .flowMappingKey (node false false)
  | .flowMappingEmptyValue => do
    expectNext .flowMappingKey
    return empty

/-- The next event, without taking it; `none` after the end of the text. -/
def peek : EventM (Option Event) := do
  if let some e := (← get).current then return some e
  match (← get).expect with
  | none => return none
  | some s =>
    let e ← step s
    modify fun r => { r with current := some e }
    return some e

/-- Takes the next event. -/
def take : EventM (Option Event) := do
  let e ← peek
  modify fun r => { r with current := none }
  return e

end EventM

end ScriptGate.Yaml
