import ManifestLint.Pattern.Regex
import ManifestLint.Text.Escaped

/-! # String matchers

A string matcher is compiled from a pattern given by a user. The empty pattern matches every
string. A leading `!` negates the rest of the pattern, where negation is allowed. The rest is an
unanchored regular expression, or, where regular expressions are not allowed, a string compared
as it is.
-/

namespace ManifestLint

/-- What a pattern may use: regular expressions, and negation by a leading `!`. -/
structure MatchOptions where
  allowRegex : Bool := true
  allowNegation : Bool := true
deriving DecidableEq, Repr

/-- How a matcher tests a string before negation. -/
inductive MatchRule
  | any
  | literal (s : String)
  | regex (r : Pattern.Regex)

/-- A compiled test of strings. -/
structure StringMatcher where
  rule : MatchRule
  negate : Bool := false

/-- Why a pattern does not compile: a negation where none is allowed, or a regular expression
that does not compile. -/
inductive MatcherError
  | negationNotAllowed (pattern : String)
  | regex (pattern : String) (e : Pattern.CompileError)

def MatcherError.message : MatcherError → String
  | .negationNotAllowed p => "negation is not allowed for pattern " ++ Text.quote p
  | .regex p e => "invalid regex: " ++ e.render p

namespace StringMatcher

/-- The matcher that accepts every string. -/
def any : StringMatcher :=
  ⟨.any, false⟩

/-- Whether a matcher accepts a string. -/
def accepts (m : StringMatcher) (s : String) : Bool :=
  let matched := match m.rule with
    | .any => true
    | .literal l => l == s
    | .regex r => r.isMatch s
  matched != m.negate

/-- Compiles a pattern under options. -/
def compile (pattern : String) (options : MatchOptions := {}) :
    Except MatcherError StringMatcher :=
  if pattern.isEmpty then .ok any
  else
    let (negate, rest) := match pattern.toList with
      | '!' :: cs => (true, String.ofList cs)
      | _ => (false, pattern)
    if negate && !options.allowNegation then .error (.negationNotAllowed pattern)
    else if options.allowRegex then
      match Pattern.Regex.compile rest with
      | .ok r => .ok ⟨.regex r, negate⟩
      | .error e => .error (.regex rest e)
    else .ok ⟨.literal rest, negate⟩

end StringMatcher

theorem StringMatcher.any_accepts (s : String) : StringMatcher.any.accepts s = true := rfl

end ManifestLint
