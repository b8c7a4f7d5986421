import ManifestLint.Yaml.Lexer

/-! # YAML events

The events of a YAML stream: the starts and ends of the stream, of documents, of sequences and of
mappings, scalars and aliases, each at the mark where it starts. Nodes carry their anchor and their
tag, with the tag's handle already expanded by the document's `%TAG` directives (`!` and `!!`,
which stands for `tag:yaml.org,2002:`, are always known).

Events are read from tokens by a state machine with a stack of states to return to. A key or value
that is missing, such as the value of `a:` on a line of its own, reads as an empty plain scalar.
-/

namespace ManifestLint.Yaml

/-- What an event is. -/
inductive EventKind
  | streamStart
  | streamEnd
  | documentStart
  | documentEnd
  | alias (name : String)
  | scalar (anchor tag : Option String) (text : String) (style : ScalarStyle)
  | sequenceStart (anchor tag : Option String)
  | sequenceEnd
  | mappingStart (anchor tag : Option String)
  | mappingEnd
deriving DecidableEq, Repr, Inhabited

/-- An event and the mark where it starts. -/
structure Event where
  kind : EventKind
  mark : Mark
deriving DecidableEq, Repr, Inhabited

/-- Where the event reader is in the grammar of a stream. -/
inductive ReadState
  | streamStart
  | implicitDocumentStart
  | documentStart
  | documentContent
  | documentEnd
  | blockNode
  | blockNodeOrIndentlessSequence
  | flowNode
  | blockSequenceFirstEntry
  | blockSequenceEntry
  | indentlessSequenceEntry
  | blockMappingFirstKey
  | blockMappingKey
  | blockMappingValue
  | flowSequenceFirstEntry
  | flowSequenceEntry
  | flowSequenceEntryMappingKey
  | flowSequenceEntryMappingValue
  | flowSequenceEntryMappingEnd
  | flowMappingFirstKey
  | flowMappingKey
  | flowMappingValue
  | flowMappingEmptyValue
  | finished
deriving DecidableEq, Repr, Inhabited

/-- The state of the event reader. -/
structure Reader where
  lexer : Lexer
  state : ReadState := .streamStart
  /-- States to return to when the current node is done. -/
  states : List ReadState := []
  /-- Marks of the open collections, for messages. -/
  marks : List Mark := []
  /-- Tag handles of the current document and what they expand to. -/
  tagDirectives : List (String × String) := []
  streamEnded : Bool := false
deriving Repr, Inhabited

/-- Reading events: a state over the reader that may stop with a syntax error. -/
abbrev ReadM := StateT Reader (Except SyntaxError)

/-- Runs a lexer step inside the event reader. -/
def lex {α : Type} (m : LexM α) : ReadM α := do
  let r ← get
  match m.run r.lexer with
  | .ok (a, l) =>
    set { r with lexer := l }
    return a
  | .error e => throw e

def peekT : ReadM Token :=
  lex peekToken

def skipT : ReadM Unit := do
  let r ← get
  let ended := match r.lexer.queue with
    | t :: _ => t.kind == .streamEnd
    | [] => false
  set { r with streamEnded := ended }
  lex skipToken

/-- A bound on the rounds of a loop that takes a token each round. -/
def tokenBudget : ReadM Nat :=
  lex budget

def goTo (s : ReadState) : ReadM Unit :=
  modify fun r => { r with state := s }

/-- Remembers a state to return to. -/
def pushState (s : ReadState) : ReadM Unit :=
  modify fun r => { r with states := s :: r.states }

/-- Returns to the last remembered state. -/
def popState : ReadM Unit :=
  modify fun r => match r.states with
    | s :: rest => { r with state := s, states := rest }
    | [] => { r with state := .finished }

/-- Remembers the mark of a collection being opened. -/
def pushMark (m : Mark) : ReadM Unit :=
  modify fun r => { r with marks := m :: r.marks }

/-- Forgets the mark of the innermost open collection and returns it. -/
def popMark : ReadM Mark := do
  let r ← get
  match r.marks with
  | m :: rest =>
    set { r with marks := rest }
    return m
  | [] => return {}

/-- Stops with a problem at a mark. -/
def problemAt {α : Type} (problem : String) (mark : Mark) : ReadM α :=
  throw { problem, problemMark := mark }

/-- Stops with a problem at a mark, found while reading the construct that starts at `start`. -/
def problemWhile {α : Type} (context : String) (start : Mark) (problem : String) (mark : Mark) :
    ReadM α :=
  throw { problem, problemMark := mark, context := some (context, start) }

/-- The empty plain scalar that stands for a missing node. -/
def emptyScalar (m : Mark) : Event :=
  ⟨.scalar none none "" .plain, m⟩

/-- Whether a token is a directive. -/
def TokenKind.isDirective : TokenKind → Bool
  | .versionDirective _ _ | .tagDirective _ _ => true
  | _ => false

/-- Adds a tag directive; a handle may be given once per document, and the default handles only
when the document does not give them. -/
def addTagDirective (handle expansion : String) (isDefault : Bool) (mark : Mark) : ReadM Unit := do
  let r ← get
  if r.tagDirectives.any (·.1 == handle) then
    if !isDefault then problemAt "found duplicate %TAG directive" mark
  else
    set { r with tagDirectives := r.tagDirectives ++ [(handle, expansion)] }

/-- Reads the directives before a document and adds the default tag handles. -/
def processDirectives : ReadM Unit := do
  let mut version := false
  for _ in [0:← tokenBudget] do
    let t ← peekT
    if !t.kind.isDirective then break
    match t.kind with
    | .versionDirective major minor =>
      if version then problemAt "found duplicate %YAML directive" t.start
      if major != 1 || (minor != 1 && minor != 2) then
        problemAt "found incompatible YAML document" t.start
      version := true
    | .tagDirective handle expansion => addTagDirective handle expansion false t.start
    | _ => pure ()
    skipT
  let t ← peekT
  addTagDirective "!" "!" true t.start
  addTagDirective "!!" "tag:yaml.org,2002:" true t.start

/-! ## Documents -/

/-- The start of the stream. -/
def readStreamStart : ReadM Event := do
  let t ← peekT
  if t.kind != .streamStart then problemAt "did not find expected <stream-start>" t.start
  goTo .implicitDocumentStart
  skipT
  return ⟨.streamStart, t.start⟩

/-- The start of a document, or the end of the stream. Only the first document may start without
`---`. -/
def readDocumentStart (implicit : Bool) : ReadM Event := do
  if !implicit then
    for _ in [0:← tokenBudget] do
      if (← peekT).kind == .documentEnd then skipT else break
  let t ← peekT
  if implicit && !t.kind.isDirective && t.kind != .documentStart && t.kind != .streamEnd then
    processDirectives
    pushState .documentEnd
    goTo .blockNode
    return ⟨.documentStart, t.start⟩
  else if t.kind != .streamEnd then
    let start := t.start
    processDirectives
    let t ← peekT
    if t.kind != .documentStart then problemAt "did not find expected <document start>" t.start
    pushState .documentEnd
    goTo .documentContent
    skipT
    return ⟨.documentStart, start⟩
  else
    goTo .finished
    skipT
    return ⟨.streamEnd, t.start⟩

/-- The content of an explicit document, which may be empty. -/
def readDocumentContent (readNode : ReadM Event) : ReadM Event := do
  let t ← peekT
  if t.kind.isDirective || t.kind == .documentStart || t.kind == .documentEnd ||
      t.kind == .streamEnd then
    popState
    return emptyScalar t.start
  else readNode

/-- The end of a document, with or without `...`. -/
def readDocumentEnd : ReadM Event := do
  let t ← peekT
  if t.kind == .documentEnd then skipT
  modify fun r => { r with tagDirectives := [] }
  goTo .documentStart
  return ⟨.documentEnd, t.start⟩

/-! ## Nodes -/

/-- Expands a tag's handle by the document's tag directives. -/
def resolveTag (handle suffix : String) (start tagMark : Mark) : ReadM String := do
  if handle.isEmpty then return suffix
  match (← get).tagDirectives.find? (·.1 == handle) with
  | some (_, expansion) => return expansion ++ suffix
  | none => problemWhile "while parsing a node" start "found undefined tag handle" tagMark

/-- A node: an alias, or properties followed by a scalar or the start of a collection. In the
block context a `-` right after a key's `:` starts a sequence at the key's indentation. -/
def readNode (block indentless : Bool) : ReadM Event := do
  let t ← peekT
  if let .alias name := t.kind then
    popState
    skipT
    return ⟨.alias name, t.start⟩
  let mut anchor : Option String := none
  let mut tagParts : Option (String × String) := none
  let mut tagMark := t.start
  match t.kind with
  | .anchor a =>
    anchor := some a
    skipT
    let t2 ← peekT
    if let .tag h s := t2.kind then
      tagParts := some (h, s)
      tagMark := t2.start
      skipT
  | .tag h s =>
    tagParts := some (h, s)
    skipT
    let t2 ← peekT
    if let .anchor a := t2.kind then
      anchor := some a
      skipT
  | _ => pure ()
  let start := t.start
  let tag ← match tagParts with
    | none => pure none
    | some (h, s) => some <$> resolveTag h s start tagMark
  let t ← peekT
  if indentless && t.kind == .blockEntry then
    goTo .indentlessSequenceEntry
    return ⟨.sequenceStart anchor tag, start⟩
  match t.kind with
  | .scalar text style =>
    popState
    skipT
    return ⟨.scalar anchor tag text style, start⟩
  | .flowSequenceStart =>
    goTo .flowSequenceFirstEntry
    return ⟨.sequenceStart anchor tag, start⟩
  | .flowMappingStart =>
    goTo .flowMappingFirstKey
    return ⟨.mappingStart anchor tag, start⟩
  | .blockSequenceStart =>
    if block then
      goTo .blockSequenceFirstEntry
      return ⟨.sequenceStart anchor tag, start⟩
  | .blockMappingStart =>
    if block then
      goTo .blockMappingFirstKey
      return ⟨.mappingStart anchor tag, start⟩
  | _ => pure ()
  if anchor.isSome || tag.isSome then
    popState
    return ⟨.scalar anchor tag "" .plain, start⟩
  problemWhile (if block then "while parsing a block node" else "while parsing a flow node") start
    "did not find expected node content" t.start

/-! ## Block collections -/

/-- An entry of a block sequence, or its end. -/
def readBlockSequenceEntry (first : Bool) : ReadM Event := do
  if first then
    pushMark (← peekT).start
    skipT
  let t ← peekT
  if t.kind == .blockEntry then
    skipT
    let t2 ← peekT
    if t2.kind != .blockEntry && t2.kind != .blockEnd then
      pushState .blockSequenceEntry
      readNode true false
    else
      goTo .blockSequenceEntry
      return emptyScalar t.stop
  else if t.kind == .blockEnd then
    popState
    let _ ← popMark
    skipT
    return ⟨.sequenceEnd, t.start⟩
  else
    problemWhile "while parsing a block collection" (← popMark)
      "did not find expected '-' indicator" t.start

/-- An entry of a sequence written at the indentation of a mapping's keys, or its end. -/
def readIndentlessSequenceEntry : ReadM Event := do
  let t ← peekT
  if t.kind == .blockEntry then
    skipT
    let t2 ← peekT
    if t2.kind != .blockEntry && t2.kind != .key && t2.kind != .value && t2.kind != .blockEnd then
      pushState .indentlessSequenceEntry
      readNode true false
    else
      goTo .indentlessSequenceEntry
      return emptyScalar t.stop
  else
    popState
    return ⟨.sequenceEnd, t.start⟩

/-- A key of a block mapping, or its end. -/
def readBlockMappingKey (first : Bool) : ReadM Event := do
  if first then
    pushMark (← peekT).start
    skipT
  let t ← peekT
  if t.kind == .key then
    skipT
    let t2 ← peekT
    if t2.kind != .key && t2.kind != .value && t2.kind != .blockEnd then
      pushState .blockMappingValue
      readNode true true
    else
      goTo .blockMappingValue
      return emptyScalar t.stop
  else if t.kind == .blockEnd then
    popState
    let _ ← popMark
    skipT
    return ⟨.mappingEnd, t.start⟩
  else
    problemWhile "while parsing a block mapping" (← popMark) "did not find expected key" t.start

/-- A value of a block mapping, which may be missing. -/
def readBlockMappingValue : ReadM Event := do
  let t ← peekT
  if t.kind == .value then
    skipT
    let t2 ← peekT
    if t2.kind != .key && t2.kind != .value && t2.kind != .blockEnd then
      pushState .blockMappingKey
      readNode true true
    else
      goTo .blockMappingKey
      return emptyScalar t.stop
  else
    goTo .blockMappingKey
    return emptyScalar t.start

/-! ## Flow collections -/

/-- An entry of a flow sequence, or its end. A `key: value` entry is a mapping of one pair. -/
def readFlowSequenceEntry (first : Bool) : ReadM Event := do
  if first then
    pushMark (← peekT).start
    skipT
  let mut t ← peekT
  if t.kind != .flowSequenceEnd then
    if !first then
      if t.kind == .flowEntry then
        skipT
        t ← peekT
      else
        problemWhile "while parsing a flow sequence" (← popMark)
          "did not find expected ',' or ']'" t.start
    if t.kind == .key then
      goTo .flowSequenceEntryMappingKey
      skipT
      return ⟨.mappingStart none none, t.start⟩
    else if t.kind != .flowSequenceEnd then
      pushState .flowSequenceEntry
      return ← readNode false false
  popState
  let _ ← popMark
  skipT
  return ⟨.sequenceEnd, t.start⟩

/-- The key of a one-pair mapping inside a flow sequence. -/
def readFlowSequenceEntryMappingKey : ReadM Event := do
  let t ← peekT
  if t.kind != .value && t.kind != .flowEntry && t.kind != .flowSequenceEnd then
    pushState .flowSequenceEntryMappingValue
    readNode false false
  else
    skipT
    goTo .flowSequenceEntryMappingValue
    return emptyScalar t.stop

/-- The value of a one-pair mapping inside a flow sequence. -/
def readFlowSequenceEntryMappingValue : ReadM Event := do
  let t ← peekT
  if t.kind == .value then
    skipT
    let t2 ← peekT
    if t2.kind != .flowEntry && t2.kind != .flowSequenceEnd then
      pushState .flowSequenceEntryMappingEnd
      return ← readNode false false
    goTo .flowSequenceEntryMappingEnd
    return emptyScalar t2.start
  goTo .flowSequenceEntryMappingEnd
  return emptyScalar t.start

/-- The end of a one-pair mapping inside a flow sequence. -/
def readFlowSequenceEntryMappingEnd : ReadM Event := do
  let t ← peekT
  goTo .flowSequenceEntry
  return ⟨.mappingEnd, t.start⟩

/-- A key of a flow mapping, or its end. -/
def readFlowMappingKey (first : Bool) : ReadM Event := do
  if first then
    pushMark (← peekT).start
    skipT
  let mut t ← peekT
  if t.kind != .flowMappingEnd then
    if !first then
      if t.kind == .flowEntry then
        skipT
        t ← peekT
      else
        problemWhile "while parsing a flow mapping" (← popMark)
          "did not find expected ',' or '\x7d'" t.start
    if t.kind == .key then
      skipT
      let t2 ← peekT
      if t2.kind != .value && t2.kind != .flowEntry && t2.kind != .flowMappingEnd then
        pushState .flowMappingValue
        return ← readNode false false
      goTo .flowMappingValue
      return emptyScalar t2.start
    else if t.kind != .flowMappingEnd then
      pushState .flowMappingEmptyValue
      return ← readNode false false
  popState
  let _ ← popMark
  skipT
  return ⟨.mappingEnd, t.start⟩

/-- A value of a flow mapping, which may be missing. -/
def readFlowMappingValue (empty : Bool) : ReadM Event := do
  let t ← peekT
  if empty then
    goTo .flowMappingKey
    return emptyScalar t.start
  if t.kind == .value then
    skipT
    let t2 ← peekT
    if t2.kind != .flowEntry && t2.kind != .flowMappingEnd then
      pushState .flowMappingKey
      return ← readNode false false
    goTo .flowMappingKey
    return emptyScalar t2.start
  goTo .flowMappingKey
  return emptyScalar t.start

/-! ## The state machine -/

/-- The next event, or nothing once the stream has ended. -/
def nextEvent : ReadM (Option Event) := do
  let r ← get
  if r.streamEnded || r.state == .finished then return none
  some <$> match r.state with
    | .streamStart => readStreamStart
    | .implicitDocumentStart => readDocumentStart true
    | .documentStart => readDocumentStart false
    | .documentContent => readDocumentContent (readNode true false)
    | .documentEnd => readDocumentEnd
    | .blockNode => readNode true false
    | .blockNodeOrIndentlessSequence => readNode true true
    | .flowNode => readNode false false
    | .blockSequenceFirstEntry => readBlockSequenceEntry true
    | .blockSequenceEntry => readBlockSequenceEntry false
    | .indentlessSequenceEntry => readIndentlessSequenceEntry
    | .blockMappingFirstKey => readBlockMappingKey true
    | .blockMappingKey => readBlockMappingKey false
    | .blockMappingValue => readBlockMappingValue
    | .flowSequenceFirstEntry => readFlowSequenceEntry true
    | .flowSequenceEntry => readFlowSequenceEntry false
    | .flowSequenceEntryMappingKey => readFlowSequenceEntryMappingKey
    | .flowSequenceEntryMappingValue => readFlowSequenceEntryMappingValue
    | .flowSequenceEntryMappingEnd => readFlowSequenceEntryMappingEnd
    | .flowMappingFirstKey => readFlowMappingKey true
    | .flowMappingKey => readFlowMappingKey false
    | .flowMappingValue => readFlowMappingValue false
    | .flowMappingEmptyValue => readFlowMappingValue true
    | .finished => readStreamStart

/-- A reader at the start of a text. -/
def Reader.ofString (s : String) : Reader :=
  { lexer := Lexer.ofString s }

end ManifestLint.Yaml
