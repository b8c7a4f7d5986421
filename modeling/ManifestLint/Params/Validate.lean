import ManifestLint.Params.Schema
import ManifestLint.Yaml.Printer
import ManifestLint.Text.Escaped
import ManifestLint.Text.Blank

/-! # Validating parameters

A payload of parameters is checked against a schema, and every problem is reported, not only the
first. The payload must be a mapping, and null stands for the empty one. Each entry is checked in
the order written: its key must be a string naming a parameter of the schema; a null value counts
as absent; otherwise the value must have the parameter's type, a string must be one of the allowed
values if there are any, the fields of an object are checked against the parameter's own fields,
and the elements of an array against its element type. After the entries, each required parameter
that is absent or null is reported missing, in the order of the schema.

A field is named by its path: `a.b` for a field of an object, `list[2]` for an element of an array.
A key that is not a string is named by its YAML text.

What passes is the payload with its null entries, and the elements and fields that failed, left
out.
-/

namespace ManifestLint

open Yaml

/-- A problem with a parameter payload. -/
inductive ParamProblem
  | unknownField (field : String)
  | missingField (field : String)
  | typeMismatch (field : String) (expected : ParamType) (found : String)
  | notInChoices (field value : String) (allowed : List String)
  /-- A payload that passed the schema but does not make the template's record. -/
  | undecodable (message : String)
deriving DecidableEq, Repr

def ParamProblem.message : ParamProblem → String
  | .unknownField f => "unknown parameter " ++ Text.quote f
  | .missingField f => "required parameter " ++ Text.quote f ++ " is missing"
  | .typeMismatch f t found =>
    "parameter " ++ Text.quote f ++ " must be of type " ++ t.name ++ ", got " ++ found
  | .notInChoices f v allowed =>
    "parameter " ++ Text.quote f ++ " has value " ++ Text.quote v ++ ", which is not one of " ++
      Text.quoteList allowed
  | .undecodable m => "failed to decode parameters: " ++ m

/-- The problems of a payload. -/
structure ParamsError where
  problems : List ParamProblem
deriving DecidableEq, Repr

/-- The text of the problems of a payload, joined by semicolons. -/
def ParamsError.message (e : ParamsError) : String :=
  "; ".intercalate (e.problems.map ParamProblem.message)

/-- The name of a key that is not a string: its YAML text without trailing blanks, or the name of
its type when it cannot be written. -/
def keyName (k : Value) : String :=
  match k.toYaml? with
  | some text => String.ofList (Text.dropBlank text.toList.reverse).reverse
  | none => k.typeName

/-- The required parameters of a schema that a mapping lacks or gives as null. -/
def missingFields (schema : List ParamSpec) (entries : List (Value × Value)) (path : String) :
    List ParamProblem :=
  (schema.filter (·.required)).filterMap fun p =>
    match (Value.mapping entries).get? p.name with
    | some v => if v.isNull then some (.missingField (path ++ p.name)) else none
    | none => some (.missingField (path ++ p.name))

mutual

/-- Checks a mapping against a schema, its fields named after `path`. Returns the entries that
pass and the problems. -/
def checkMapping (schema : List ParamSpec) (path : String) (entries : List (Value × Value)) :
    List (Value × Value) × List ParamProblem :=
  let (kept, problems) := checkEntries schema path entries
  (kept, problems ++ missingFields schema entries path)
termination_by (sizeOf entries, 1)

/-- Checks the entries of a mapping, in order. -/
def checkEntries (schema : List ParamSpec) (path : String) :
    List (Value × Value) → List (Value × Value) × List ParamProblem
  | [] => ([], [])
  | (k, v) :: rest =>
    let (kept, problems) : List (Value × Value) × List ParamProblem :=
      match k.asString? with
      | none => ([], [.unknownField (path ++ keyName k)])
      | some name =>
        match ParamSpec.find? schema name with
        | none => ([], [.unknownField (path ++ name)])
        | some p =>
          if v.isNull then ([], [])
          else
            let (checked, ps) := checkParam p (path ++ name) v
            match checked with
            | some w => ([(k, w)], ps)
            | none => ([], ps)
    let (keptRest, problemsRest) := checkEntries schema path rest
    (kept ++ keptRest, problems ++ problemsRest)
termination_by es => (sizeOf es, 0)

/-- Checks the value of a parameter: an array element by element when the parameter is an array,
any other value against the parameter's type. -/
def checkParam (p : ParamSpec) (field : String) : Value → Option Value × List ParamProblem
  | .sequence items =>
    if p.type == .array then
      match p.elementType with
      | none => (some (.sequence items), [])
      | some t =>
        let (kept, ps) := checkElements t p.choices p.fields field 0 items
        (some (.sequence kept), ps)
    else checkType p.type p.choices p.fields field (.sequence items)
  | v => checkType p.type p.choices p.fields field v
termination_by v => (sizeOf v, 2)

/-- Checks the elements of an array against the element type, numbering them from `i`. -/
def checkElements (t : ParamType) (choices : List String) (fields : List ParamSpec)
    (field : String) (i : Nat) : List Value → List Value × List ParamProblem
  | [] => ([], [])
  | x :: rest =>
    let (checked, ps) := checkType t choices fields (field ++ "[" ++ toString i ++ "]") x
    let (kept, psRest) := checkElements t choices fields field (i + 1) rest
    (checked.toList ++ kept, ps ++ psRest)
termination_by xs => (sizeOf xs, 0)

/-- Checks a value against a type, its allowed values and its fields. -/
def checkType (t : ParamType) (choices : List String) (fields : List ParamSpec) (field : String) :
    Value → Option Value × List ParamProblem
  | .string s =>
    if !t.accepts (.string s) then (none, [.typeMismatch field t (Value.string s).typeName])
    else if !choices.isEmpty && !choices.contains s then (none, [.notInChoices field s choices])
    else (some (.string s), [])
  | .mapping es =>
    if !t.accepts (.mapping es) then (none, [.typeMismatch field t (Value.mapping es).typeName])
    else if fields.isEmpty then (some (.mapping es), [])
    else
      let (kept, ps) := checkMapping fields (field ++ ".") es
      (some (.mapping kept), ps)
  | v => if !t.accepts v then (none, [.typeMismatch field t v.typeName]) else (some v, [])
termination_by v => (sizeOf v, 1)

end

/-- Checks a payload against a schema: the payload with nulls and failed parts left out, or every
problem found. -/
def validateParams (schema : List ParamSpec) (payload : Value) :
    Except ParamsError (List (Value × Value)) :=
  let (kept, problems) : List (Value × Value) × List ParamProblem :=
    match payload with
    | .null => checkMapping schema "" []
    | .mapping es => checkMapping schema "" es
    | v => ([], [.typeMismatch "params" .object v.typeName])
  if problems.isEmpty then .ok kept else .error ⟨problems⟩

end ManifestLint
