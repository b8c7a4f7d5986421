import ManifestLint.Manifest.Kind
import ManifestLint.Manifest.Identity

/-! # Scopes

A scope is a list of names from the kind catalogue, and accepts an object when one of its names
does. The catalogue has `Any`, which accepts everything, `DeploymentLike`, which accepts the nine
workload kinds, `JobLike`, which accepts jobs and cron jobs, and one name for each kind. A kind
accepts an identity with its name and its group, whatever the version.
-/

namespace ManifestLint

/-- A name of the kind catalogue. -/
inductive KindName
  | any
  | deploymentLike
  | jobLike
  | kind (k : Kind)
deriving DecidableEq, Repr

namespace KindName

/-- Whether an identity is the given kind served from the kind's group. -/
def isKind (k : Kind) (id : Identity) : Bool :=
  id.kind == k.name && id.group == k.group

/-- Whether a catalogue name accepts an identity. -/
def accepts : KindName → Identity → Bool
  | any, _ => true
  | deploymentLike, id => Kind.workloads.any (isKind · id)
  | jobLike, id => isKind .job id || isKind .cronJob id
  | kind k, id => isKind k id

def label : KindName → String
  | any => "Any"
  | deploymentLike => "DeploymentLike"
  | jobLike => "JobLike"
  | kind k => k.name

/-- Every catalogue name. -/
def all : List KindName :=
  [any, deploymentLike, jobLike] ++ Kind.all.map kind

/-- The catalogue name a text stands for. -/
def ofLabel? (s : String) : Option KindName :=
  all.find? (·.label == s)

/-- The catalogue's names in increasing order. -/
def labels : List String :=
  (all.map label).mergeSort (fun a b => decide (a ≤ b))

end KindName

/-- Why a scope could not be formed. -/
inductive ScopeError
  | unknownKind (name : String)
deriving DecidableEq, Repr

def ScopeError.message : ScopeError → String
  | .unknownKind name => "unknown object kind: " ++ name

/-- A scope: the names as written, and what each stands for. -/
structure Scope where
  names : List String
  kinds : List KindName
deriving DecidableEq, Repr

namespace Scope

/-- Resolves names against the catalogue, failing on the first unknown one. -/
def resolve (names : List String) : Except ScopeError Scope := do
  let kinds ← names.mapM fun n =>
    match KindName.ofLabel? n with
    | some k => .ok k
    | none => .error (.unknownKind n)
  return ⟨names, kinds⟩

/-- Whether a scope accepts an identity. -/
def accepts (s : Scope) (id : Identity) : Bool :=
  s.kinds.any (·.accepts id)

end Scope

end ManifestLint
