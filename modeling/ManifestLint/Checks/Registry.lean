import Std.Data.HashMap
import ManifestLint.Checks.Builtin
import ManifestLint.Templates.Instantiate
import ManifestLint.Scope

/-! # The check registry

Registering a check runs its specification through a pipeline that stops at the first failure:
the name must be letters, digits, `_` and `-`; the template must exist; the parameters must
validate against the template's schema; the name must be new; the scope's kinds must be known;
and the template must instantiate. A registered check keeps its specification, its rule and its
resolved scope, in registration order, and an index sends each registered name to the position
of its check.

Registering a batch registers every valid specification and reports every rejected one.
-/

namespace ManifestLint

/-- A registered check: its specification, rule and scope. -/
structure RegisteredCheck where
  spec : CheckSpec
  rule : Rule
  scope : Scope

/-- Why a check specification was rejected. -/
inductive CheckError
  | invalidName (name : String)
  | unknownTemplate (check template : String)
  | invalidParameters (check : String) (e : ParamsError)
  | duplicateCheck (name : String)
  | unknownKind (check : String) (e : ScopeError)
  | instantiation (check : String) (e : TemplateError)

/-- What names must match. -/
def checkNamePattern : String :=
  "^[a-zA-Z0-9_-]+$"

namespace CheckError

def message : CheckError → String
  | invalidName n => "invalid check name " ++ Text.quote n ++ ": must match " ++ checkNamePattern
  | unknownTemplate c t => "check " ++ Text.quote c ++ ": template " ++ Text.quote t ++ " not found"
  | invalidParameters c e => "check " ++ Text.quote c ++ ": invalid parameters: " ++ e.message
  | duplicateCheck n => "duplicate check name: " ++ n
  | unknownKind c e => "check " ++ Text.quote c ++ ": " ++ e.message
  | instantiation c e => "check " ++ Text.quote c ++ ": instantiation failed: " ++ e.message

/-- The name of the check an error is about. -/
def checkName : CheckError → String
  | invalidName n | duplicateCheck n => n
  | unknownTemplate c _ | invalidParameters c _ | unknownKind c _ | instantiation c _ => c

/-- The kind of an error, as reports name it. -/
def kind : CheckError → String
  | invalidName _ => "InvalidName"
  | unknownTemplate .. => "UnknownTemplate"
  | invalidParameters .. => "InvalidParameters"
  | duplicateCheck _ => "DuplicateCheck"
  | unknownKind .. => "UnknownKind"
  | instantiation .. => "Instantiation"

end CheckError

/-- The errors of a batch registration. -/
structure RegistrationErrors where
  errors : List CheckError

/-- The text of the errors of a batch registration. -/
def RegistrationErrors.message (e : RegistrationErrors) : String :=
  toString e.errors.length ++ " check(s) failed to register: " ++
    "; ".intercalate (e.errors.map CheckError.message)

/-- Whether a check name is made of ASCII letters, digits, `_` and `-` only, and is not empty. -/
def isValidCheckName (name : String) : Bool :=
  !name.isEmpty && name.all fun c => c.isAlphanum || c == '_' || c == '-'

/-- Runs a specification through the pipeline, given whether its name is already taken. -/
def CheckSpec.prepare (spec : CheckSpec) (taken : Bool) : Except CheckError RegisteredCheck := do
  if !isValidCheckName spec.name then throw (.invalidName spec.name)
  let some t := Template.ofKey? spec.template
    | throw (.unknownTemplate spec.name spec.template)
  let params ← match t.readParams spec.params with
    | .ok p => pure p
    | .error e => throw (.invalidParameters spec.name e)
  if taken then throw (.duplicateCheck spec.name)
  let scope ← match Scope.resolve (spec.scope.getD t.objectKinds) with
    | .ok s => pure s
    | .error e => throw (.unknownKind spec.name e)
  let rule ← match t.instantiate params with
    | .ok rule => pure rule
    | .error e => throw (.instantiation spec.name e)
  return ⟨spec, rule, scope⟩

/-- The registered checks, in registration order, and the position of each check by name. -/
structure Registry where
  checks : List RegisteredCheck := []
  index : Std.HashMap String Nat := ∅

namespace Registry

/-- The registered check with a name, found through the index. -/
def load? (r : Registry) (name : String) : Option RegisteredCheck :=
  r.index[name]?.bind (r.checks[·]?)

/-- The names of the registered checks, in registration order. -/
def names (r : Registry) : List String :=
  r.checks.map (·.spec.name)

/-- Runs a specification through the pipeline, whose only use of the registry is whether the name
is already registered. -/
def prepare (r : Registry) (spec : CheckSpec) : Except CheckError RegisteredCheck :=
  spec.prepare (r.index.contains spec.name)

/-- Registers one specification. -/
def registerOne (r : Registry) (spec : CheckSpec) : Except CheckError Registry := do
  let c ← r.prepare spec
  return { checks := r.checks ++ [c], index := r.index.insert c.spec.name r.checks.length }

/-- One step of a batch: the registry after registering a specification, and the errors so far. -/
def registerStep (acc : Registry × List CheckError) (spec : CheckSpec) :
    Registry × List CheckError :=
  match acc.1.registerOne spec with
  | .ok r' => (r', acc.2)
  | .error e => (acc.1, acc.2 ++ [e])

/-- Registers a batch of specifications: every valid one registers, and the rejected ones are
reported together. -/
def register (r : Registry) (specs : List CheckSpec) : Registry × Option RegistrationErrors :=
  let (r', errors) := specs.foldl registerStep (r, [])
  (r', if errors.isEmpty then none else some ⟨errors⟩)

/-- The registry holding the built-in checks. -/
def builtin : Registry :=
  ({} : Registry).register builtinChecks |>.1

end Registry

end ManifestLint
