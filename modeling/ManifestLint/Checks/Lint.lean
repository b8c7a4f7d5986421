import ManifestLint.Checks.Run

/-! # Linting

A configuration enables checks by name: the default checks unless turned off, every built-in
check if asked, the checks it defines, and those it includes, less those it excludes. The names
come out sorted and without repeats, and every one of them must be registered.

Linting registers the built-in checks and then the configuration's own, resolves the enabled
checks, and runs them over the contexts. It fails if the enabled set names a check that is not
registered, or if a check does not register.
-/

namespace ManifestLint

/-- Adds a name to a sorted list without repeats. -/
def insertSorted (name : String) : List String → List String
  | [] => [name]
  | n :: ns =>
    if name < n then name :: n :: ns
    else if name = n then n :: ns
    else n :: insertSorted name ns

/-- The names of the checks a configuration enables, sorted, or the sorted names among them that
a registry does not hold. -/
def Config.enabledChecks (c : Config) (r : Registry) : Except (List String) (List String) :=
  let sources :=
    (if c.checks.doNotAutoAddDefaults then [] else defaultChecks) ++
    (if c.checks.addAllBuiltIn then builtinChecks.map (·.name) else []) ++
    c.customChecks.map (·.name) ++ c.checks.includes
  let enabled := (sources.foldl (fun acc n => insertSorted n acc) []).filter
    (!c.checks.excludes.contains ·)
  let missing := enabled.filter fun n => (r.load? n).isNone
  if missing.isEmpty then .ok enabled else .error missing

/-- The text of the error of enabled checks that are not registered. -/
def unknownChecksMessage (missing : List String) : String :=
  "enabled checks not found: " ++ ", ".intercalate missing

/-- Why linting failed. -/
inductive LintError
  | registration (e : RegistrationErrors)
  | unknownChecks (missing : List String)

/-- Whether a run passed: it failed when any check reported. -/
inductive CheckStatus
  | passed
  | failed
  deriving DecidableEq, Repr

/-- The outcome of linting. -/
structure LintResult where
  reports : List Report
  /-- The names of the checks that ran, sorted. -/
  checks : List String
  /-- The valid objects analyzed, over all contexts. -/
  objectsAnalyzed : Nat
  checksRun : Nat
  status : CheckStatus

/-- Whether linting found anything. -/
def LintResult.hasFailures (r : LintResult) : Bool :=
  !r.reports.isEmpty

/-- The registry of the built-in checks and a configuration's own, with the errors of the
configuration's checks. -/
def Config.registry (c : Config) : Registry × Option RegistrationErrors :=
  Registry.builtin.register c.customChecks

/-- Lints contexts with the checks a configuration enables. -/
def lint (contexts : List Context) (c : Config) : Except LintError LintResult := do
  let (builtin, builtinErrors) := ({} : Registry).register builtinChecks
  if let some e := builtinErrors then throw (.registration e)
  let (registry, errors) := builtin.register c.customChecks
  if let some e := errors then throw (.registration e)
  let enabled ← match c.enabledChecks registry with
    | .ok names => pure names
    | .error missing => throw (.unknownChecks missing)
  let checks := enabled.filterMap registry.load?
  let reports := runChecks contexts checks
  return { reports, checks := enabled,
           objectsAnalyzed := contexts.foldl (fun n c => n + c.objects.length) 0,
           checksRun := checks.length,
           status := if reports.isEmpty then .passed else .failed }

/-- Lints a text of manifests read from standard input. -/
def lintContent (text : String) (c : Config) : Except LintError LintResult :=
  lint [Context.ofText "<stdin>" text] c

theorem insertSorted_nil (name : String) : insertSorted name [] = [name] := rfl

end ManifestLint
