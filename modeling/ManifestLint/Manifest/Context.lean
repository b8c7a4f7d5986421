import ManifestLint.Manifest.Object
import ManifestLint.Manifest.Sections
import ManifestLint.Yaml.Document

/-! # Reading manifests

Each section of a manifest is read as one YAML document. A null document is skipped. A document
whose `apiVersion` or `kind` is missing or not a string is not an object; any other document is
one, read by its kind. Reading is lenient below that: a field that is missing or of the wrong type
reads as absent, and in a text map (labels, annotations, selectors, resources) numbers and booleans
are kept in their YAML spelling while other values, and keys that are not strings, are dropped.

A list of objects fails at the first section that is not valid YAML. A context instead records such
a section, and every document that is not an object, as an invalid entry, and reads the rest.
-/

namespace ManifestLint

open Yaml

/-- Why a document is not an object. -/
inductive ObjectError
  | noApiVersion
  | noKind
deriving DecidableEq, Repr

def ObjectError.message : ObjectError → String
  | .noApiVersion => "object has no apiVersion"
  | .noKind => "object has no kind"

/-- A section that is not valid YAML: the number of its first line and the YAML error. -/
structure MalformedSection where
  line : Nat
  error : LoadError
deriving DecidableEq, Repr

/-- The text of a malformed section. -/
def MalformedSection.message (e : MalformedSection) : String :=
  "YAML syntax error at line " ++ toString e.line ++ ": " ++ e.error.render

namespace ManifestValue

/-- The text a map entry's value is kept as: a string itself, a number or boolean as YAML writes
it. Tags are not looked through. -/
def entryText? : Value → Option String
  | .string s => some s
  | .number n => some n.render
  | .bool b => some (toString b)
  | _ => none

/-- The text map under `key` of a mapping; entries whose key is not a string or whose value has no
text are dropped, and of two entries with one key the later wins. -/
def dict (v : Option Value) (key : String) : Dict :=
  match (v.bind (·.get? key)).bind Value.asMapping? with
  | none => {}
  | some es =>
    Dict.ofList (es.filterMap fun e =>
      match e.1.asString?, entryText? e.2 with
      | some k, some t => some (k, t)
      | _, _ => none)

/-- The string under `key`. -/
def text? (v : Value) (key : String) : Option String :=
  (v.get? key).bind Value.asString?

/-- Whether an integer fits a signed 32-bit word. -/
def fitsInt32 (n : Int) : Bool :=
  -Int.pow 2 31 ≤ n && n < Int.pow 2 31

/-- The integer under `key`, if it fits a signed 32-bit word. -/
def int32? (v : Value) (key : String) : Option Int :=
  ((v.get? key).bind Value.asInt?).filter fitsInt32

def metadata (v : Value) : Metadata :=
  let m := v.get? "metadata"
  { name := (m.bind (text? · "name")).getD "", namespace? := m.bind (text? · "namespace")
    labels := dict m "labels"
    annotations := dict m "annotations" }

def container (c : Value) : Container :=
  { name := (text? c "name").getD ""
    image := text? c "image"
    securityContext := (c.get? "securityContext").map fun s =>
      { privileged := (s.get? "privileged").bind Value.asBool? }
    resources := (c.get? "resources").map fun r =>
      { limits := dict (some r) "limits", requests := dict (some r) "requests" }
    env := match (c.get? "env").bind Value.asSequence? with
      | some xs => xs.map fun e => { name := (text? e "name").getD "", value := text? e "value" }
      | none => [] }

/-- The containers under `key`. -/
def containers (v : Value) (key : String) : List Container :=
  match (v.get? key).bind Value.asSequence? with
  | some xs => xs.map container
  | none => []

def podSpec (s : Value) : PodSpec :=
  { containers := containers s "containers", initContainers := containers s "initContainers" }

def podTemplate (t : Value) : PodTemplate :=
  { labels := dict (t.get? "metadata") "labels"
    spec := ((t.get? "spec").map podSpec).getD {} }

/-- A workload that scales by its spec: the replica count and template of its spec. -/
def workload (v : Value) (m : Metadata) : Workload :=
  let spec := v.get? "spec"
  { metadata := m
    replicas := spec.bind (int32? · "replicas")
    template := (spec.bind (·.get? "template")).map podTemplate }

/-- A pod, its own template: the pod's labels and spec. -/
def pod (v : Value) (m : Metadata) : Workload :=
  { metadata := m
    replicas := none
    template := some { labels := m.labels, spec := ((v.get? "spec").map podSpec).getD {} } }

/-- A cron job, whose template is that of its job template. -/
def cronJob (v : Value) (m : Metadata) : Workload :=
  { metadata := m
    replicas := none
    template := ((((v.get? "spec").bind (·.get? "jobTemplate")).bind (·.get? "spec")).bind
      (·.get? "template")).map podTemplate }

def service (v : Value) (m : Metadata) : Service :=
  let spec := v.get? "spec"
  { metadata := m, selector := dict spec "selector", serviceType := spec.bind (text? · "type") }

/-- The contents of an object of the kind named `kind`. -/
def body (kind : String) (v : Value) : Body :=
  let m := metadata v
  match Kind.ofName? kind with
  | some .pod => .workload .pod (pod v m)
  | some .cronJob => .workload .cronJob (cronJob v m)
  | some .service => .service (service v m)
  | some k => if Kind.workloads.contains k then .workload k (workload v m) else .other k m
  | none => .unknown kind m

end ManifestValue

/-- The object of a document, read from `file` with its first line at `line`. -/
def Object.ofValue (file : String) (line : Nat) (v : Value) : Except ObjectError Object :=
  match ManifestValue.text? v "apiVersion" with
  | none => .error .noApiVersion
  | some av =>
    match ManifestValue.text? v "kind" with
    | none => .error .noKind
    | some k => .ok ⟨file, line, av, ManifestValue.body k v⟩

/-- What a section holds: nothing, an object, or a document that is not one. -/
inductive Entry
  | empty
  | object (o : Object)
  | invalid (e : ObjectError)
deriving DecidableEq, Repr

/-- Reads a section of the manifest `file`. -/
def Section.read (file : String) (s : Section) : Except MalformedSection Entry :=
  match readValue s.text with
  | .error e => .error ⟨s.line, e⟩
  | .ok v =>
    if v.isNull then .ok .empty
    else
      match Object.ofValue file s.line v with
      | .ok o => .ok (.object o)
      | .error e => .ok (.invalid e)

/-- The objects of a manifest, in order, or the first section that is not valid YAML. Documents
that are not objects are skipped. -/
def readObjects (file text : String) : Except MalformedSection (List Object) :=
  go (Section.ofText text)
where
  go : List Section → Except MalformedSection (List Object)
    | [] => .ok []
    | s :: rest =>
      match s.read file with
      | .error e => .error e
      | .ok entry =>
        match go rest with
        | .error e => .error e
        | .ok os =>
          match entry with
          | .object o => .ok (o :: os)
          | _ => .ok os

/-- Adds a section to a context. -/
def Context.addSection (file : String) (c : Context) (s : Section) : Context :=
  match s.read file with
  | .ok .empty => c
  | .ok (.object o) => { c with objects := c.objects ++ [o] }
  | .ok (.invalid e) => { c with invalid := c.invalid ++ [⟨file, s.line, e.message⟩] }
  | .error e => { c with invalid := c.invalid ++ [⟨file, s.line, e.message⟩] }

/-- The context of a manifest: its objects, and its sections that are not objects. -/
def Context.ofText (file text : String) : Context :=
  (Section.ofText text).foldl (Context.addSection file) {}

/-- Whether an object carries the annotation that exempts it from every check. -/
def Object.ignoresAll (o : Object) : Bool :=
  o.annotations.contains "kube-linter.io/ignore-all"

end ManifestLint
