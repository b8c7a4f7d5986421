import ManifestLint.Templates.Rule

/-! # Instantiating templates

A template turns parameters read into its record into a rule. Parameters read by a template of
another record kind are refused. Patterns are compiled under what their parameter allows: a
parameter may forbid regular expressions, making its pattern a literal, or forbid negation. The
latest-tag template takes its lists as plain regular expressions and refuses to be given both.
-/

namespace ManifestLint

/-- Why a template could not be instantiated. -/
inductive TemplateError
  | invalidPattern (param : String) (e : MatcherError)
  | invalid (message : String)
  | paramsMismatch (template : String)

def TemplateError.message : TemplateError → String
  | .invalidPattern p e => "invalid value for parameter " ++ Text.quote p ++ ": " ++ e.message
  | .invalid m => m
  | .paramsMismatch t => "parameters for template " ++ Text.quote t ++ " have an unexpected type"

/-- The options of a parameter's patterns, from its schema. -/
def matchOptionsFor (schema : List ParamSpec) (name : String) : MatchOptions :=
  match ParamSpec.find? schema name with
  | some p => { allowRegex := p.regexAllowed, allowNegation := p.negationAllowed }
  | none => {}

/-- Compiles the pattern of a parameter. -/
def compileParam (schema : List ParamSpec) (name pattern : String) :
    Except TemplateError StringMatcher :=
  match StringMatcher.compile pattern (matchOptionsFor schema name) with
  | .ok m => .ok m
  | .error e => .error (.invalidPattern name e)

/-- Compiles a list of regular expressions of a parameter. -/
def compileList (name : String) (patterns : List String) :
    Except TemplateError (List Pattern.Regex) :=
  patterns.mapM fun p =>
    match Pattern.Regex.compile p with
    | .ok r => .ok r
    | .error e => .error (.invalidPattern name (.regex p e))

namespace Template

/-- The rule of a template with parameters read into its record. -/
def instantiate (t : Template) (p : TemplateParams) : Except TemplateError Rule := do
  if p.kind != t.record then throw (.paramsMismatch t.key)
  let schema := t.parameters
  match t, p with
  | requiredLabel, .requiredMap key value | requiredAnnotation, .requiredMap key value =>
    let field := if t == requiredLabel then "label" else "annotation"
    let keyMatcher ← compileParam schema "key" key
    let valueMatcher ← compileParam schema "value" value
    let message := "no " ++ field ++ " matching \"" ++ key ++ "=" ++
      (if value.isEmpty then "<any>" else value) ++ "\" found"
    return .requiredMap (t == requiredAnnotation) keyMatcher valueMatcher message
  | latestTag, .latestTag blockList allowList =>
    let blocked ← compileList "blockList" blockList
    let allowed ← compileList "allowList" allowList
    if !blocked.isEmpty && !allowed.isEmpty then
      throw (.invalid ("only one of the paramater lists can be used at a time: check has " ++
        "both \"allowList\" & \"blockList\" parameter's values set"))
    return .latestTag blocked allowed
  | envVar, .envVar name value =>
    return .envVar (← compileParam schema "name" name) (← compileParam schema "value" value)
  | minimumReplicas, .minimumReplicas least => return .minimumReplicas least
  | cpuRequirements, .cpuRequirements kind lower upper =>
    return .cpuRequirements (kind == "request" || kind == "any") (kind == "limit" || kind == "any")
      lower upper
  | disallowedApiObject, .disallowedGvk group version kind =>
    let g ← compileParam schema "group" group
    let v ← compileParam schema "version" version
    let k ← compileParam schema "kind" kind
    return .disallowedGvk g v k
  | danglingService, .danglingService ignored => return .danglingService ignored
  | privileged, _ => return .privileged
  | _, _ => throw (.paramsMismatch t.key)

end Template

end ManifestLint
