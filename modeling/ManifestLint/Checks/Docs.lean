import ManifestLint.Checks.Spec
import ManifestLint.Templates.Catalog

/-! # Documentation of templates and checks

The documentation of a check names it, describes it, gives its remediation and template, its
scope (its own, or else its template's), and its parameters as JSON. Checks are listed by name.

Parameters become JSON the way a JSON serializer sees YAML: mapping keys must become texts, so
booleans, integers and finite doubles are written out, while a null, a non-finite double, a
sequence or a mapping as a key makes the parameters unrepresentable; a non-finite double as a value
becomes null; a tagged value becomes an object with the tag as its one key. Object keys come out
sorted, and of two equal keys the later wins.
-/

namespace ManifestLint

open Yaml

/-- A JSON value; numbers keep the text they are written with. -/
inductive JsonValue
  | null
  | bool (b : Bool)
  | number (text : String)
  | str (s : String)
  | arr (items : List JsonValue)
  | obj (fields : List (String × JsonValue))
deriving Repr, Inhabited

/-- Whether a double is finite. -/
def isFiniteBits (bits : UInt64) : Bool :=
  !(Decimal.Parts.ofBits bits).isSpecial

/-- The key text of a YAML key, if it can be one. -/
def jsonKey? : Value → Option String
  | .string s => some s
  | .bool b => some (toString b)
  | .number (.float bits) => if isFiniteBits bits then some (Number.render (.float bits)) else none
  | .number n => some n.render
  | _ => none

/-- Adds a field to fields sorted by key, replacing a field of the same key. -/
def insertField (k : String) (v : JsonValue) : List (String × JsonValue) →
    List (String × JsonValue)
  | [] => [(k, v)]
  | (k', v') :: rest =>
    if k < k' then (k, v) :: (k', v') :: rest
    else if k = k' then (k, v) :: rest
    else (k', v') :: insertField k v rest

mutual

/-- The JSON of a YAML value, if it has one. -/
def Value.toJson? : Value → Option JsonValue
  | .null => some .null
  | .bool b => some (.bool b)
  | .number (.float bits) =>
    some (if isFiniteBits bits then .number (Number.render (.float bits)) else .null)
  | .number n => some (.number n.render)
  | .string s => some (.str s)
  | .sequence items => (itemsJson? items).map .arr
  | .mapping entries => (entriesJson? entries []).map .obj
  | .tagged t v => (Value.toJson? v).map fun j => .obj [(t, j)]

/-- The JSON of the items of a sequence. -/
def itemsJson? : List Value → Option (List JsonValue)
  | [] => some []
  | v :: vs => do
    let j ← Value.toJson? v
    let js ← itemsJson? vs
    return j :: js

/-- The JSON fields of the entries of a mapping, added to sorted fields. -/
def entriesJson? : List (Value × Value) → List (String × JsonValue) →
    Option (List (String × JsonValue))
  | [], acc => some acc
  | (k, v) :: rest, acc => do
    let key ← jsonKey? k
    let j ← Value.toJson? v
    entriesJson? rest (insertField key j acc)

end

/-- The documentation of a check. -/
structure CheckDoc where
  name : String
  description : String
  remediation : Option String
  template : String
  scope : List String
  params : JsonValue

/-- The documentation of a check specification. -/
def CheckDoc.ofSpec (spec : CheckSpec) : CheckDoc :=
  { name := spec.name, description := spec.description, remediation := spec.remediation,
    template := spec.template,
    scope := spec.scope.getD (((Template.ofKey? spec.template).map Template.objectKinds).getD [])
    params := (Value.toJson? spec.params).getD .null }

/-- The documentation of checks, sorted by name; checks of one name keep their order. -/
def checkDocs (specs : List CheckSpec) : List CheckDoc :=
  (specs.map CheckDoc.ofSpec).mergeSort fun a b => decide (a.name ≤ b.name)

theorem jsonKey?_string (s : String) : jsonKey? (.string s) = some s := rfl

end ManifestLint
