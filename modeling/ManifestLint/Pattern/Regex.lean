import ManifestLint.Pattern.Automaton
import ManifestLint.Pattern.Footprint

/-! # Regular expressions

A regular expression is its text together with the automaton it compiles to. Compiling reads the
text, lowers it to a term with the default flags (Unicode on, the others off) and builds the
automaton. A failure is a pattern error whose text points into the pattern, or a term whose
automata would pass the size limit. Matching is unanchored: the expression matches a text if it
matches some part of it.
-/

namespace ManifestLint.Pattern

/-- Why a regular expression does not compile: its text is not a valid pattern, or its automata
would take more memory than the limit. -/
inductive CompileError
  | invalid (e : PatternError)
  | tooBig (limit : Nat)
deriving DecidableEq, Repr

/-- The text of why a regular expression does not compile. -/
def CompileError.render (e : CompileError) (pattern : String) : String :=
  match e with
  | .invalid e => e.render pattern
  | .tooBig limit => "Compiled regex exceeds size limit of " ++ toString limit ++ " bytes."

/-- A compiled regular expression. -/
structure Regex where
  source : String
  automaton : Automaton

namespace Regex

/-- Compiles a regular expression. -/
def compile (pattern : String) : Except CompileError Regex := do
  let ast ← (parsePattern pattern).mapError .invalid
  let (t, _) ← (lower {} ast).mapError .invalid
  if !(Form.ofTerm t).fitsSizeLimit then throw (.tooBig sizeLimit)
  return ⟨pattern, Automaton.ofTerm t⟩

/-- Whether a regular expression matches some part of a text. -/
def isMatch (r : Regex) (text : String) : Bool :=
  r.automaton.isMatch text

end Regex

/-- The text of why a pattern does not compile, or none. -/
def compileError? (pattern : String) : Option String :=
  match Regex.compile pattern with
  | .ok _ => none
  | .error e => some (e.render pattern)

end ManifestLint.Pattern
