import ManifestLint.Checks.Registry
import ManifestLint.Manifest.Context

/-! # Running checks

Checks run over every object of every context, in context order, then object order, then check
order. A check looks only at objects its scope accepts and that do not opt out of it: an object
opts out of every check with the annotation `kube-linter.io/ignore-all`, and out of one check with
the annotation `ignore-check.kube-linter.io/` followed by the check's name.

Each message of a check becomes a report naming the check, its remediation, and the object.
-/

namespace ManifestLint

/-- A message of a check about an object. -/
structure Report where
  check : String
  message : String
  remediation : Option String
  file : String
  line : Nat
  identity : Identity
  name : String
  (namespace? : Option String)
deriving DecidableEq, Repr

namespace Report

/-- The object as `namespace/name`, with a placeholder for objects without a namespace. -/
def objectIdentifier (r : Report) : String :=
  r.namespace?.getD "<no namespace>" ++ "/" ++ r.name

/-- Where the object is: its file and line. -/
def location (r : Report) : String :=
  r.file ++ ":" ++ toString r.line

/-- The report as one line of text. -/
def render (r : Report) : String :=
  r.location ++ ": (object: " ++ r.objectIdentifier ++ " " ++ r.identity.render ++ ") " ++
    r.message ++ " (check: " ++ r.check ++
    (match r.remediation with
      | some m => ", remediation: " ++ m
      | none => "") ++ ")"

end Report

/-- The annotation that opts an object out of one check. -/
def ignoreCheckPrefix : String :=
  "ignore-check.kube-linter.io/"

/-- Whether an object opts out of a check. -/
def Object.ignoresCheck (o : Object) (check : String) : Bool :=
  o.ignoresAll || o.annotations.contains (ignoreCheckPrefix ++ check)

/-- The reports of checks over the objects of contexts. -/
def runChecks (contexts : List Context) (checks : List RegisteredCheck) : List Report :=
  contexts.flatMap fun ctx =>
    ctx.objects.flatMap fun o =>
      checks.flatMap fun c =>
        if !c.scope.accepts o.identity || o.ignoresCheck c.spec.name then []
        else (c.rule.check ctx o).map fun m =>
          { check := c.spec.name, message := m, remediation := c.spec.remediation,
            file := o.file, line := o.line, identity := o.identity,
            name := o.name, namespace? := o.namespace? }

theorem runChecks_nil (checks : List RegisteredCheck) : runChecks [] checks = [] := rfl

end ManifestLint
