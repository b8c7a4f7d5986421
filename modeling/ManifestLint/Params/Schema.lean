import ManifestLint.Yaml.Value

/-! # Parameter schemas

A template declares its parameters as a schema: for each parameter a name, a type named as in JSON
schema, whether it is required, and for documentation a description and examples. A string
parameter may be limited to a list of allowed values, may be matched literally rather than as a
regular expression, and may refuse negation by a leading `!`. An array parameter may name the type
of its elements, and an object parameter, or an array of objects, may declare the parameters of its
own fields.

Integers are numbers too, and an integer parameter takes only the numbers that are integers fitting
a signed 64-bit word.
-/

namespace ManifestLint

open Yaml

/-- The type of a parameter. -/
inductive ParamType
  | string
  | integer
  | boolean
  | number
  | object
  | array
deriving DecidableEq, Repr

namespace ParamType

def name : ParamType → String
  | string => "string"
  | integer => "integer"
  | boolean => "boolean"
  | number => "number"
  | object => "object"
  | array => "array"

def ofName? (s : String) : Option ParamType :=
  [string, integer, boolean, number, object, array].find? (·.name == s)

/-- Whether a value has a type; a tagged value has none. -/
def accepts : ParamType → Value → Bool
  | string, .string _ => true
  | integer, .number n => n.asInt?.isSome
  | number, .number _ => true
  | boolean, .bool _ => true
  | object, .mapping _ => true
  | array, .sequence _ => true
  | _, _ => false

theorem ofName?_name (t : ParamType) : ofName? t.name = some t := by
  cases t <;> rfl

end ParamType

/-- The name of the type of a value, as messages give it. -/
def Yaml.Value.typeName : Value → String
  | .null => "null"
  | .bool _ => "boolean"
  | .number n => if n.asInt?.isSome then "integer" else "number"
  | .string _ => "string"
  | .sequence _ => "array"
  | .mapping _ => "object"
  | .tagged _ _ => "tagged value"

/-- A parameter of a template. -/
structure ParamSpec where
  name : String
  type : ParamType
  description : String := ""
  examples : List String := []
  required : Bool := false
  /-- The values a string, or the strings of an array, may take; any if empty. -/
  choices : List String := []
  /-- The type of the elements of an array. -/
  elementType : Option ParamType := none
  /-- The parameters of the fields of an object, or of the objects of an array. -/
  fields : List ParamSpec := []
  /-- Whether the parameter is a regular expression rather than a literal. -/
  regexAllowed : Bool := true
  /-- Whether the parameter may be negated by a leading `!`. -/
  negationAllowed : Bool := true
deriving Repr

/-- The parameter of a schema with a name. -/
def ParamSpec.find? (schema : List ParamSpec) (name : String) : Option ParamSpec :=
  schema.find? (·.name == name)

theorem ParamType.accepts_tagged (t : ParamType) (tag : String) (v : Value) :
    t.accepts (.tagged tag v) = false := by
  cases t <;> rfl

end ManifestLint
