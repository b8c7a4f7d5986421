import ManifestLint.Yaml.Document

/-! # Typed YAML decoding

Records are decoded from YAML by a shape: booleans, texts, arbitrary values, optional and repeated
shapes, and records with named fields. Decoding follows the events of the document, so that a
problem is reported at the node it is about, with its path and mark.

* A text is read from any scalar, whatever its style or tag.
* A boolean is `true` or `false` in one of three spellings, written plain, or as a literal block
  tagged `!!bool`.
* An optional shape is absent for a plain null scalar, and otherwise holds the shape; a plain
  scalar tagged `!!null` must be a null word, and its record refuses it otherwise.
* A repeated shape or a record may also be written as an empty plain scalar, meaning none or no
  fields.
* A record refuses keys that are not among its fields (the message lists them) and a field given
  twice, and requires its required fields; a field that is absent takes its default.

A node of the wrong kind is described as it would be read as a value: a unit value, a boolean, an
integer, a floating point number, a string, a sequence or a map.
-/

namespace ManifestLint.Yaml

/-- The shape of a decoded record. -/
inductive Shape
  | bool
  | text
  | value
  | optional (s : Shape)
  | repeated (s : Shape)
  /-- A record with a name for messages, and its fields: name, whether required, shape. -/
  | record (name : String) (fields : List (String × Bool × Shape))

/-- What a shape decodes to. -/
inductive Decoded
  | bool (b : Bool)
  | text (s : String)
  | value (v : Value)
  | optional (d : Option Decoded)
  | repeated (items : List Decoded)
  | record (fields : List (String × Decoded))
deriving Repr, Inhabited

/-- How messages name what a shape expects. -/
def Shape.expected : Shape → String
  | .bool => "a boolean"
  | .text => "a string"
  | .value => anyValue
  | .optional s => s.expected
  | .repeated _ => "a sequence"
  | .record name _ => "struct " ++ name

/-- The error for a node of the wrong kind where something is expected. -/
def mismatch (step : Step) (expected : String) : LoadError :=
  match step with
  | .scalar tag text style =>
    match scalarValue tag text style false expected with
    | .ok v => .message (invalidType v.unexpected expected) none
    | .error msg => .message msg none
  | .sequenceStart _ => .message (invalidType .seq expected) none
  | .mappingStart _ => .message (invalidType .map expected) none
  | .void => .endOfStream
  | _ => .message "unexpected end of a collection" none

/-- Whether a scalar is a plain empty one, which also stands for an empty collection. -/
def isEmptyPlain : Step → Bool
  | .scalar _ text style => text.isEmpty && style == .plain
  | .void => true
  | _ => false

/-- Whether a node fills an optional shape: a plain null scalar leaves it absent, any other node
fills it, and a plain scalar tagged `!!null` that is no null word is refused. -/
def fillsOptional : Step → Except String Bool
  | .scalar tag text style =>
    if style != .plain then .ok true
    else
      match tag with
      | some t =>
        if t != coreTag "null" then .ok true
        else if isNullWord text then .ok false
        else .error (invalidValue (.str text) "null")
      | none => .ok !(text.isEmpty || isNullWord text)
  | .void => .ok false
  | _ => .ok true

/-- Whether a scalar may be read as a boolean: a plain one, or a literal block tagged `!!bool`. -/
def mayBeBoolean (tag : Option String) (style : ScalarStyle) : Bool :=
  style == .plain || (style == .literal && tag == some (coreTag "bool"))

mutual

/-- Decodes a node of a shape at the cursor; `depth` is how many more collections may open. -/
def decodeShape (d : Document) : Nat → Path → Nat → Shape → DecodeM Decoded
  | 0, _, _, _ => throw .repetitionLimit
  | fuel + 1, path, depth, shape => do
    match shape with
    | .value => return .value (← decodeValue d fuel path depth false)
    | .optional s =>
      let (step, _) ← peekStep d
      match step with
      | .alias target =>
        let _ ← nextStep d
        let back ← jumpTo d target
        let r ← decodeShape d fuel (.alias path) depth shape
        returnTo back
        return r
      | _ =>
        match fillsOptional step with
        | .ok false =>
          let _ ← nextStep d
          return .optional none
        | .ok true => return .optional (some (← decodeShape d fuel path depth s))
        | .error msg => throw (.message msg none)
    | _ =>
      let (step, mark) ← nextStep d
      try
        match step, shape with
        | .alias target, _ =>
          let back ← jumpTo d target
          let r ← decodeShape d fuel (.alias path) depth shape
          returnTo back
          return r
        | .scalar _ text _, .text => return .text text
        | .scalar tag text style, .bool =>
          match (if mayBeBoolean tag style then boolWord? text else none) with
          | some b => return .bool b
          | none => throw (mismatch step shape.expected)
        | .sequenceStart _, .repeated s =>
          if depth == 0 then throw (.recursionLimit mark)
          let mut items : Array Decoded := #[]
          for i in [0:d.steps.size + 1] do
            let (next, _) ← peekStep d
            if next == .sequenceEnd || next == .void then break
            items := items.push (← decodeShape d fuel (.seq path i) (depth - 1) s)
          let _ ← nextStep d
          return .repeated items.toList
        | .mappingStart _, .record _ fields =>
          if depth == 0 then throw (.recursionLimit mark)
          let r ← decodeFields d fuel path (depth - 1) fields
          let _ ← nextStep d
          return r
        | _, .repeated _ =>
          if isEmptyPlain step then return .repeated [] else throw (mismatch step shape.expected)
        | _, .record _ fields =>
          if isEmptyPlain step then
            match fields.find? (fun (_, req, _) => req) with
            | some (n, _, _) => throw (.message ("missing field \x60" ++ n ++ "\x60") none)
            | none => return .record []
          else throw (mismatch step shape.expected)
        | _, _ => throw (mismatch step shape.expected)
      catch e => throw (e.place mark path)

/-- Decodes the entries of a mapping as the fields of a record, up to the end of the mapping. -/
def decodeFields (d : Document) : Nat → Path → Nat → List (String × Bool × Shape) →
    DecodeM Decoded
  | 0, _, _, _ => throw .repetitionLimit
  | fuel + 1, path, depth, fields => do
    let names := fields.map (·.1)
    let mut found : Array (String × Decoded) := #[]
    for _ in [0:d.steps.size + 1] do
      let (step, _) ← peekStep d
      if step == .mappingEnd || step == .void then break
      let name ← decodeFieldName d fuel path names
      if found.any (·.1 == name) then
        throw (.message ("duplicate field \x60" ++ name ++ "\x60") none)
      match fields.find? (·.1 == name) with
      | some (_, _, s) =>
        found := found.push (name, ← decodeShape d fuel (entryPath path step) depth s)
      | none => pure ()
    match fields.find? (fun (n, req, _) => req && !found.any (·.1 == n)) with
    | some (n, _, _) => throw (.message ("missing field \x60" ++ n ++ "\x60") none)
    | none => return .record found.toList

/-- Decodes the key of a record entry, which must name one of the record's fields. -/
def decodeFieldName (d : Document) : Nat → Path → List String → DecodeM String
  | 0, _, _ => throw .repetitionLimit
  | fuel + 1, path, names => do
    let (step, mark) ← nextStep d
    try
      match step with
      | .alias target =>
        let back ← jumpTo d target
        let r ← decodeFieldName d fuel (.alias path) names
        returnTo back
        return r
      | .scalar _ text _ =>
        if names.contains text then return text
        else throw (.message (unknownFieldMessage text names) none)
      | _ => throw (mismatch step "field identifier")
    catch e => throw (e.place mark path)

end

/-- Reads a text holding one YAML document as a record of a shape. -/
def readShape (text : String) (shape : Shape) : Except LoadError Decoded :=
  readWith text fun d => decodeShape d d.decodeBudget .root nestingLimit shape

namespace Decoded

/-- The field of a decoded record. -/
def field? (d : Decoded) (name : String) : Option Decoded :=
  match d with
  | .record fields => fields.lookup name
  | _ => none

/-- A decoded boolean, or `false`. -/
def toBool : Decoded → Bool
  | .bool b => b
  | _ => false

/-- A decoded text, or the empty text. -/
def toText : Decoded → String
  | .text s => s
  | _ => ""

/-- A decoded value, or null. -/
def toValue : Decoded → Value
  | .value v => v
  | _ => .null

def toItems : Decoded → List Decoded
  | .repeated items => items
  | _ => []

/-- The texts of a decoded list field. -/
def texts (d : Decoded) (name : String) : List String :=
  ((d.field? name).map fun l => l.toItems.map toText).getD []

/-- A decoded optional shape. -/
def toOption : Decoded → Option Decoded
  | .optional d => d
  | _ => none

end Decoded

theorem unknownFieldMessage_nil (f : String) :
    unknownFieldMessage f [] = "unknown field \x60" ++ f ++ "\x60, " ++ "there are no fields" :=
  rfl

end ManifestLint.Yaml
