import ManifestLint.Manifest.Kind
import ManifestLint.Manifest.Identity
import ManifestLint.Manifest.Dict

/-! # Objects

An object is one document of a manifest that names an `apiVersion` and a kind, read into the parts
that checks look at: its name, namespace, labels and annotations, and, by kind, the pod template of
a workload or the selector of a service. Where it came from (file and first line) goes with it.

A workload's replica count defaults to one for the kinds that scale by replicas, as the API server
does; the other kinds have no count. The pod template of a pod is the pod itself, and that of a
cron job is the template of its job template.
-/

namespace ManifestLint

/-- The metadata every object has. -/
structure Metadata where
  name : String := ""
  (namespace? : Option String := none)
  labels : Dict := {}
  annotations : Dict := {}
deriving DecidableEq, Repr, Inhabited

/-- An environment variable of a container. -/
structure EnvVar where
  name : String
  value : Option String
deriving DecidableEq, Repr

/-- Security settings of a container. -/
structure SecurityContext where
  privileged : Option Bool
deriving DecidableEq, Repr

/-- Resource limits and requests of a container, as quantity texts. -/
structure Resources where
  limits : Dict
  requests : Dict
deriving DecidableEq, Repr

/-- A container of a pod. -/
structure Container where
  name : String
  image : Option String
  securityContext : Option SecurityContext
  resources : Option Resources
  env : List EnvVar
deriving DecidableEq, Repr

/-- The containers of a pod. -/
structure PodSpec where
  containers : List Container := []
  initContainers : List Container := []
deriving DecidableEq, Repr, Inhabited

/-- The template a workload makes pods from. -/
structure PodTemplate where
  labels : Dict := {}
  spec : PodSpec := {}
deriving DecidableEq, Repr, Inhabited

/-- Every container of a pod, init containers last. -/
def PodSpec.allContainers (s : PodSpec) : List Container :=
  s.containers ++ s.initContainers

/-- What a workload holds: its replica count as written and its pod template. -/
structure Workload where
  metadata : Metadata
  replicas : Option Int
  template : Option PodTemplate
deriving DecidableEq, Repr

/-- What a service holds: its selector and its type. -/
structure Service where
  metadata : Metadata
  selector : Dict
  serviceType : Option String
deriving DecidableEq, Repr

/-- The contents of an object by kind: a workload of one of the workload kinds, a service, another
known kind with only metadata, or a kind without a typed reading. -/
inductive Body
  | workload (kind : Kind) (w : Workload)
  | service (s : Service)
  | other (kind : Kind) (m : Metadata)
  | unknown (kind : String) (m : Metadata)
deriving DecidableEq, Repr

namespace Body

/-- The known kind of the contents. -/
def kind? : Body → Option Kind
  | workload k _ => some k
  | service _ => some .service
  | other k _ => some k
  | unknown _ _ => none

/-- The kind as the manifest writes it. -/
def kindName : Body → String
  | unknown k _ => k
  | b => (b.kind?.map Kind.name).getD ""

def metadata : Body → Metadata
  | workload _ w => w.metadata
  | service s => s.metadata
  | other _ m => m
  | unknown _ m => m

/-- Whether a kind scales by a replica count. -/
def scalesByReplicas (k : Kind) : Bool :=
  k == .deployment || k == .statefulSet || k == .replicaSet || k == .replicationController ||
    k == .deploymentConfig

/-- The replica count: the written one, or one if unwritten, for the kinds that scale by replicas;
nothing for the others. -/
def replicas : Body → Option Int
  | workload k w => if scalesByReplicas k then some (w.replicas.getD 1) else none
  | _ => none

/-- The pod template of a workload. -/
def template? : Body → Option PodTemplate
  | workload _ w => w.template
  | _ => none

end Body

/-- An object read from a manifest. -/
structure Object where
  file : String
  line : Nat
  apiVersion : String
  body : Body
deriving DecidableEq, Repr

namespace Object

/-- The identity of an object, from its `apiVersion` and kind. -/
def identity (o : Object) : Identity :=
  Identity.ofApiVersion o.apiVersion o.body.kindName

def kind? (o : Object) : Option Kind :=
  o.body.kind?

def metadata (o : Object) : Metadata :=
  o.body.metadata

def name (o : Object) : String :=
  o.metadata.name

def namespace? (o : Object) : Option String :=
  o.metadata.namespace?

def labels (o : Object) : Dict :=
  o.metadata.labels

def annotations (o : Object) : Dict :=
  o.metadata.annotations

def template? (o : Object) : Option PodTemplate :=
  o.body.template?

def podSpec? (o : Object) : Option PodSpec :=
  o.template?.map (·.spec)

end Object

/-- A document that could not be read as an object, with the reason. -/
structure Invalid where
  file : String
  line : Nat
  error : String
deriving DecidableEq, Repr

/-- The objects of one source, and the documents of it that are not objects. -/
structure Context where
  objects : List Object := []
  invalid : List Invalid := []
deriving DecidableEq, Repr, Inhabited

theorem Body.kindName_of_kind? {b : Body} {k : Kind} (h : b.kind? = some k) :
    b.kindName = k.name := by
  cases b <;> simp_all [kind?, kindName]

end ManifestLint
