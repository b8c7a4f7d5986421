import ManifestLint.Params.Validate

/-! # Template parameter records

Each template reads its validated parameters into a record of its own; the required-label and
required-annotation templates share one. A record is read from the mapping of parameters the way a
derived deserializer that refuses unknown fields reads a struct. The entries are read in order:
each key, seen through its tags, must be a string naming a field of the record that was not read
before, and each value must decode as its field's type. Then each field takes the value read for
it, or its default when it has one; a field with neither is missing, and the first such field in
the record's order is reported. Strings, integers and lists are seen through tags, and an integer
must fit a signed 64-bit word.
-/

namespace ManifestLint

open Yaml

/-- The kinds of parameter records. -/
inductive RecordKind
  | requiredMap
  | latestTag
  | empty
  | envVar
  | minimumReplicas
  | cpuRequirements
  | disallowedGvk
  | danglingService
deriving DecidableEq, Repr

/-- Parameters read into a template's record. -/
inductive TemplateParams
  | requiredMap (key value : String)
  | latestTag (blockList allowList : List String)
  | empty
  | envVar (name value : String)
  | minimumReplicas (minReplicas : Int)
  | cpuRequirements (requirementsType : String) (lowerBoundMillis : Int)
      (upperBoundMillis : Option Int)
  | disallowedGvk (group version kind : String)
  | danglingService (ignoredLabels : List String)
deriving DecidableEq, Repr

/-- The kind of record parameters were read into. -/
def TemplateParams.kind : TemplateParams → RecordKind
  | .requiredMap .. => .requiredMap
  | .latestTag .. => .latestTag
  | .empty => .empty
  | .envVar .. => .envVar
  | .minimumReplicas .. => .minimumReplicas
  | .cpuRequirements .. => .cpuRequirements
  | .disallowedGvk .. => .disallowedGvk
  | .danglingService .. => .danglingService

/-- The types of the fields of parameter records: a string, a signed 64-bit integer, an optional
one, and a list of strings. -/
inductive FieldType
  | text
  | int
  | optionalInt
  | texts
deriving DecidableEq, Repr

/-- The fields of a record, in the order it declares them, with their types. -/
def RecordKind.fields : RecordKind → List (String × FieldType)
  | .requiredMap => [("key", .text), ("value", .text)]
  | .latestTag => [("blockList", .texts), ("allowList", .texts)]
  | .empty => []
  | .envVar => [("name", .text), ("value", .text)]
  | .minimumReplicas => [("minReplicas", .int)]
  | .cpuRequirements =>
    [("requirementsType", .text), ("lowerBoundMillis", .int), ("upperBoundMillis", .optionalInt)]
  | .disallowedGvk => [("group", .text), ("version", .text), ("kind", .text)]
  | .danglingService => [("ignoredLabels", .texts)]

namespace RecordFields

/-- The fields of entries, by the name each key has seen through its tags. -/
def named (entries : List (Value × Value)) : List (String × Value) :=
  entries.filterMap fun (k, v) => k.asString?.map (·, v)

/-- Decodes a string, seen through its tags. -/
def decodeText (v : Value) : Except String String :=
  match v.untag with
  | .string s => .ok s
  | w => .error (invalidType w.unexpected "a string")

/-- Decodes a signed 64-bit integer, seen through its tags: a larger number is an invalid value,
and a double is of the wrong type. -/
def decodeInt (v : Value) : Except String Int :=
  match v.untag with
  | .number (.nat n) => if n < Nat.pow 2 63 then .ok n else .error (invalidValue (.unsigned n) "i64")
  | .number (.neg n) => .ok n
  | w => .error (invalidType w.unexpected "i64")

/-- Decodes an optional integer: null is none. -/
def decodeOptionalInt : Value → Except String (Option Int)
  | .null => .ok none
  | v => some <$> decodeInt v

/-- Decodes a list of strings, seen through its tags; null is the empty list. -/
def decodeTexts (v : Value) : Except String (List String) :=
  match v.untag with
  | .sequence items => items.mapM decodeText
  | .null => .ok []
  | w => .error (invalidType w.unexpected "a sequence")

end RecordFields

/-- Whether a value decodes as a field's type, or why not. -/
def FieldType.check (ty : FieldType) (v : Value) : Except String Unit :=
  match ty with
  | .text => (RecordFields.decodeText v).map fun _ => ()
  | .int => (RecordFields.decodeInt v).map fun _ => ()
  | .optionalInt => (RecordFields.decodeOptionalInt v).map fun _ => ()
  | .texts => (RecordFields.decodeTexts v).map fun _ => ()

namespace RecordFields

/-- Reads the entries of a mapping, in order, into the fields `decls` declares, after the fields
`found` read so far. A key must be, seen through its tags, a string naming a declared field not
read before, and its value must decode as the field's type. -/
def read (decls : List (String × FieldType)) :
    List (Value × Value) → List (String × Value) → Except String (List (String × Value))
  | [], found => .ok found
  | (k, v) :: rest, found =>
    match k.untag with
    | .string name =>
      match decls.lookup name with
      | none => .error (unknownFieldMessage name (decls.map (·.1)))
      | some ty =>
        if (found.map (·.1)).contains name then .error ("duplicate field \x60" ++ name ++ "\x60")
        else do
          ty.check v
          read decls rest (found ++ [(name, v)])
    | w => .error (invalidType w.unexpected "field identifier")

/-- The value of a field once every entry is read: decoded from the entry read for it, else its
default when it has one. A field with neither is missing. -/
def field {α : Type} (decode : Value → Except String α) (found : List (String × Value))
    (name : String) (default? : Option α) : Except String α :=
  match found.lookup name with
  | some v => decode v
  | none =>
    match default? with
    | some d => .ok d
    | none => .error ("missing field \x60" ++ name ++ "\x60")

end RecordFields

/-- The record of a kind made of the fields read, each decoded from its entry or taking its
default, in the record's order, so that the first missing field is the one reported. -/
def RecordKind.build (k : RecordKind) (found : List (String × Value)) :
    Except String TemplateParams :=
  let text := RecordFields.field RecordFields.decodeText found
  let int := RecordFields.field RecordFields.decodeInt found
  let texts := RecordFields.field RecordFields.decodeTexts found
  match k with
  | .requiredMap => do return .requiredMap (← text "key" none) (← text "value" (some ""))
  | .latestTag => do
    return .latestTag (← texts "blockList" (some [])) (← texts "allowList" (some []))
  | .empty => .ok .empty
  | .envVar => do return .envVar (← text "name" (some "")) (← text "value" (some ""))
  | .minimumReplicas => do return .minimumReplicas (← int "minReplicas" none)
  | .cpuRequirements => do
    return .cpuRequirements (← text "requirementsType" none) (← int "lowerBoundMillis" (some 0))
      (← RecordFields.field RecordFields.decodeOptionalInt found "upperBoundMillis" (some none))
  | .disallowedGvk => do
    return .disallowedGvk (← text "group" (some "")) (← text "version" (some ""))
      (← text "kind" (some ""))
  | .danglingService => do return .danglingService (← texts "ignoredLabels" (some []))

/-- Reads validated parameters into a record of a kind; what goes wrong is the one problem of the
parameters. -/
def RecordKind.read (k : RecordKind) (entries : List (Value × Value)) :
    Except ParamsError TemplateParams :=
  (RecordFields.read k.fields entries [] >>= k.build).mapError fun msg => ⟨[.undecodable msg]⟩

/-- Validates a payload against a schema and reads it into a record of a kind. -/
def readParams (k : RecordKind) (schema : List ParamSpec) (payload : Value) :
    Except ParamsError TemplateParams := do
  let cleaned ← validateParams schema payload
  k.read cleaned

/-- The fields a record writes, each under its name and in the order the record declares them. A
field holding the default its record skips is left out: an empty `value`, an empty `blockList` or
`allowList`. Only the records of the required-map, latest-tag and minimum-replicas templates are
written. -/
def TemplateParams.written? : TemplateParams → Option (List (String × Value))
  | .requiredMap key value =>
    some ([("key", .string key)] ++ if value.isEmpty then [] else [("value", .string value)])
  | .latestTag blockList allowList =>
    some ((if blockList.isEmpty then [] else [("blockList", .sequence (blockList.map .string))]) ++
      (if allowList.isEmpty then [] else [("allowList", .sequence (allowList.map .string))]))
  | .minimumReplicas minReplicas => some [("minReplicas", .number (.ofInt minReplicas))]
  | _ => none

/-- A record written as a YAML value: the mapping from the names of the fields it writes. -/
def TemplateParams.toValue? (r : TemplateParams) : Option Value :=
  r.written?.map fun fields => .mapping (fields.map fun (n, v) => (.string n, v))

end ManifestLint
