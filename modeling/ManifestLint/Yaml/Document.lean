import ManifestLint.Yaml.Event
import ManifestLint.Yaml.Scalar

/-! # YAML documents

A text is read as one document: the events of its first document are collected, with every alias
pointing at the event of the node its anchor names (the latest such anchor). When the events stop
early, because of a syntax problem or an alias to no anchor, the document keeps the events read so
far and the problem. A document is decoded from its events, and the problem is reported only if
decoding needs events past it. A text whose first document decodes must hold no other document.

Decoding errors name the place of the node they are about: a path of keys and indices from the
root, and the mark of the node's first event. Sequences and mappings may nest 128 deep.
-/

namespace ManifestLint.Yaml

/-- A node event of a loaded document; an alias points at the index of its node's event, and
`void` stands for a document with no node at all. -/
inductive Step
  | alias (target : Nat)
  | scalar (tag : Option String) (text : String) (style : ScalarStyle)
  | sequenceStart (tag : Option String)
  | sequenceEnd
  | mappingStart (tag : Option String)
  | mappingEnd
  | void
deriving DecidableEq, Repr, Inhabited

/-- Why the events of a document stopped early. -/
inductive StreamProblem
  | malformed (e : SyntaxError)
  | unknownAnchor (m : Mark)
deriving DecidableEq, Repr

/-- The events of a document, and the problem that cut them short, if any. -/
structure Document where
  steps : Array (Step × Mark)
  problem : Option StreamProblem := none
deriving Repr, Inhabited

/-- Where a node sits in a document, from the root down. -/
inductive Path
  | root
  | seq (parent : Path) (index : Nat)
  | map (parent : Path) (key : String)
  | alias (parent : Path)
  | unknown (parent : Path)
deriving DecidableEq, Repr, Inhabited

/-- A path as messages print it: `.` for the root, keys joined by dots, indices in brackets, and
`?` for a key that is not a scalar. -/
def Path.render : Path → String
  | .root => "."
  | .seq p i => p.render ++ "[" ++ toString i ++ "]"
  | .map p k => lead p ++ k
  | .alias p => p.render
  | .unknown p => lead p ++ "?"
where
  lead : Path → String
    | .root => ""
    | p => p.render ++ "."

/-- Why a document could not be read or decoded. -/
inductive LoadError
  | malformed (e : SyntaxError)
  | unknownAnchor (m : Mark)
  /-- A decoding message, with the mark and path of the node it is about once known. -/
  | message (text : String) (place : Option (Mark × Path))
  | endOfStream
  | moreThanOneDocument
  | recursionLimit (m : Mark)
  | repetitionLimit
deriving DecidableEq, Repr

namespace LoadError

/-- Gives a message the place of the node being decoded, unless it has one already. -/
def place (m : Mark) (p : Path) : LoadError → LoadError
  | .message t none => .message t (some (m, p))
  | e => e

/-- ` at line L column C`, or nothing at the start of the text. -/
def atMark (m : Mark) : String :=
  if m.isStart then "" else " at " ++ m.render

/-- The text of an error. -/
def render : LoadError → String
  | .malformed e => e.render
  | .unknownAnchor m => "unknown anchor" ++ atMark m
  | .message t none => t
  | .message t (some (m, p)) =>
    (if p.render == "." then "" else p.render ++ ": ") ++ t ++ atMark m
  | .endOfStream => "EOF while parsing a value"
  | .moreThanOneDocument =>
    "deserializing from YAML containing more than one document is not supported"
  | .recursionLimit m => "recursion limit exceeded" ++ atMark m
  | .repetitionLimit => "repetition limit exceeded"

end LoadError

namespace Document

/-- The error met when decoding needs an event past the last one. -/
def endError (d : Document) : LoadError :=
  match d.problem with
  | some (.malformed e) => .malformed e
  | some (.unknownAnchor m) => .unknownAnchor m
  | none => .endOfStream

/-- A bound on the events read from a text. -/
def eventBudget (text : String) : Nat :=
  8 * text.length + 64

/-- Whether events follow the end of the first document: another document, or a problem. -/
def moreFollows (r : Reader) : Bool :=
  match nextEvent.run r with
  | .ok (some ⟨.streamEnd, _⟩, _) => false
  | .ok (none, _) => false
  | _ => true

/-- Collects the events of the first document of a reader. Returns the document and whether
more follows it. -/
def collect : Nat → Reader → Array (Step × Mark) → List (String × Nat) → Document × Bool
  | 0, _, steps, _ => ({ steps }, false)
  | fuel + 1, r, steps, anchors =>
    match nextEvent.run r with
    | .error e => ({ steps, problem := some (.malformed e) }, false)
    | .ok (none, _) => ({ steps }, false)
    | .ok (some ev, r') =>
      let named (a : Option String) : List (String × Nat) :=
        match a with
        | some n => (n, steps.size) :: anchors
        | none => anchors
      match ev.kind with
      | .streamStart | .documentStart => collect fuel r' steps anchors
      | .streamEnd =>
        ({ steps := if steps.isEmpty then #[(.void, ev.mark)] else steps }, false)
      | .documentEnd => ({ steps }, moreFollows r')
      | .alias name =>
        match anchors.lookup name with
        | some i => collect fuel r' (steps.push (.alias i, ev.mark)) anchors
        | none => ({ steps, problem := some (.unknownAnchor ev.mark) }, false)
      | .scalar a tag text style =>
        collect fuel r' (steps.push (.scalar tag text style, ev.mark)) (named a)
      | .sequenceStart a tag => collect fuel r' (steps.push (.sequenceStart tag, ev.mark)) (named a)
      | .sequenceEnd => collect fuel r' (steps.push (.sequenceEnd, ev.mark)) anchors
      | .mappingStart a tag => collect fuel r' (steps.push (.mappingStart tag, ev.mark)) (named a)
      | .mappingEnd => collect fuel r' (steps.push (.mappingEnd, ev.mark)) anchors

/-- Reads the first document of a text, and whether more follows it. A character the reader
refuses stops the text before its first event. -/
def load (text : String) : Document × Bool :=
  match refusedCharacter text with
  | some e => ({ steps := #[], problem := some (.malformed e) }, false)
  | none => collect (eventBudget text) (Reader.ofString text) #[] []

end Document

/-- Where decoding is: the index of the next event, and how many aliases were followed. -/
structure Cursor where
  pos : Nat := 0
  jumps : Nat := 0
deriving DecidableEq, Repr, Inhabited

/-- Decoding the events of a document. -/
abbrev DecodeM := StateT Cursor (Except LoadError)

/-- Takes the next event. -/
def nextStep (d : Document) : DecodeM (Step × Mark) := do
  let c ← get
  match d.steps[c.pos]? with
  | some s =>
    set { c with pos := c.pos + 1 }
    return s
  | none => throw d.endError

/-- The next event, not taken. -/
def peekStep (d : Document) : DecodeM (Step × Mark) := do
  match d.steps[(← get).pos]? with
  | some s => return s
  | none => throw d.endError

/-- Moves to the node of an alias, counting the jump; a document may follow a hundred aliases
per event. Returns the index to come back to. -/
def jumpTo (d : Document) (target : Nat) : DecodeM Nat := do
  let c ← get
  if c.jumps + 1 > d.steps.size * 100 then throw .repetitionLimit
  set { c with jumps := c.jumps + 1, pos := target }
  return c.pos

/-- Comes back from an alias. -/
def returnTo (back : Nat) : DecodeM Unit :=
  modify fun c => { c with pos := back }

/-- Steps back onto the event just taken. -/
def stepBack : DecodeM Unit :=
  modify fun c => { c with pos := c.pos - 1 }

/-- The message for a key written twice in one mapping. -/
def duplicateMessage (k : Value) : String :=
  "duplicate entry " ++
    match k with
    | .null => "with null key"
    | .bool b => "with key `" ++ toString b ++ "`"
    | .number n => "with key " ++ n.render
    | .string s => "with key " ++ Text.quote s
    | _ => "in YAML map"

/-- What the decoder of values expects, for messages. -/
def anyValue : String :=
  "any YAML value"

/-- The path of the value of an entry whose key event is `s`. -/
def entryPath (path : Path) (s : Step) : Path :=
  match s with
  | .scalar _ text _ => .map path text
  | _ => .unknown path

/-- Decodes the value at the cursor. `depth` is how many more collections may open, and `tagged`
says that a local tag was already taken off the node. -/
def decodeValue (d : Document) : Nat → Path → Nat → Bool → DecodeM Value
  | 0, _, _, _ => throw .repetitionLimit
  | fuel + 1, path, depth, tagged => do
    let (step, mark) ← nextStep d
    try
      match step with
      | .alias target =>
        let back ← jumpTo d target
        let v ← decodeValue d fuel (.alias path) depth false
        returnTo back
        return v
      | .void => return .null
      | .sequenceEnd | .mappingEnd => throw (.message "unexpected end of a collection" none)
      | .scalar tag text style =>
        match localTag? tag tagged with
        | some t =>
          stepBack
          return .tagged t (← decodeValue d fuel path depth true)
        | none =>
          match scalarValue tag text style tagged anyValue with
          | .ok v => return v
          | .error msg => throw (.message msg none)
      | .sequenceStart tag =>
        match localTag? tag tagged with
        | some t =>
          stepBack
          return .tagged t (← decodeValue d fuel path depth true)
        | none =>
          if depth == 0 then throw (.recursionLimit mark)
          let mut items : Array Value := #[]
          for i in [0:d.steps.size + 1] do
            let (s, _) ← peekStep d
            if s == .sequenceEnd || s == .void then break
            items := items.push (← decodeValue d fuel (.seq path i) (depth - 1) false)
          let _ ← nextStep d
          return .sequence items.toList
      | .mappingStart tag =>
        match localTag? tag tagged with
        | some t =>
          stepBack
          return .tagged t (← decodeValue d fuel path depth true)
        | none =>
          if depth == 0 then throw (.recursionLimit mark)
          let mut entries : Array (Value × Value) := #[]
          for _ in [0:d.steps.size + 1] do
            let (s, _) ← peekStep d
            if s == .mappingEnd || s == .void then break
            let k ← decodeValue d fuel path (depth - 1) false
            if entries.any (fun e => Value.same e.1 k) then
              throw (.message (duplicateMessage k) none)
            let v ← decodeValue d fuel (entryPath path s) (depth - 1) false
            entries := entries.push (k, v)
          let _ ← nextStep d
          return .mapping entries.toList
    catch e => throw (e.place mark path)

/-- How many collections may nest in a document. -/
def nestingLimit : Nat := 128

/-- A bound on the decoding steps of a document. -/
def Document.decodeBudget (d : Document) : Nat :=
  d.steps.size * 101 + 2

/-- Runs a decoder over a document from its first event; a problem that cut the document short
wins over a successful decoding. -/
def Document.run {α : Type} (d : Document) (m : DecodeM α) : Except LoadError α :=
  match m.run {} with
  | .error e => .error e
  | .ok (a, _) =>
    match d.problem with
    | some _ => .error d.endError
    | none => .ok a

/-- Reads a text holding exactly one YAML document, decoding it with `m`. -/
def readWith {α : Type} (text : String) (m : Document → DecodeM α) : Except LoadError α :=
  let (d, more) := Document.load text
  match d.run (m d) with
  | .error e => .error e
  | .ok a => if more then .error .moreThanOneDocument else .ok a

/-- Reads a text holding exactly one YAML document as a value. -/
def readValue (text : String) : Except LoadError Value :=
  readWith text fun d => decodeValue d d.decodeBudget .root nestingLimit false

end ManifestLint.Yaml
