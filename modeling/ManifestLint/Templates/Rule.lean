import ManifestLint.Templates.Catalog
import ManifestLint.Pattern.Matcher
import ManifestLint.Resources.Cpu
import ManifestLint.Manifest.Object

/-! # Check rules

A rule is a template with its parameters compiled: matchers for patterns, numbers for bounds. A rule
looks at one object, with the whole context at hand for rules that compare objects, and gives the
messages of what it finds wrong with that object.

Rules about containers look at every container of the object's pod template, init containers
last; objects without a pod template have no containers.
-/

namespace ManifestLint

/-- A template with compiled parameters. -/
inductive Rule
  /-- Some label (or annotation) must match both a key and a value pattern. -/
  | requiredMap (annotations : Bool) (key value : StringMatcher) (message : String)
  /-- Images must avoid the block list, or match the allow list. -/
  | latestTag (blocked allowed : List Pattern.Regex)
  | privileged
  /-- Environment variables must not match both a name and a value pattern. -/
  | envVar (name value : StringMatcher)
  | minimumReplicas (least : Int)
  /-- CPU requests, limits or both must not fall within bounds. -/
  | cpuRequirements (requests limits : Bool) (lower : Int) (upper : Option Int)
  /-- Objects must not match group, version and kind patterns together. -/
  | disallowedGvk (group version kind : StringMatcher)
  /-- Services must select some pod template in their namespace. -/
  | danglingService (ignoredLabels : List String)

/-- The messages of a check on every container of an object. -/
def perContainer (o : Object) (f : Container → List String) : List String :=
  match o.podSpec? with
  | some spec => spec.allContainers.flatMap f
  | none => []

/-- The message for an image blocked by, or not allowed by, a list. -/
def imageMessage (c : Container) (image : String) (criteria : String)
    (list : List Pattern.Regex) : String :=
  "The container " ++ Text.quote c.name ++ " is using an invalid container image, " ++
    Text.quote image ++ ". Please use images that " ++ criteria ++ " : " ++
    Text.quoteList (list.map (·.source))

/-- Whether a value lies within a lower bound and an optional upper bound. -/
def inRange (value lower : Int) (upper : Option Int) : Bool :=
  decide (lower ≤ value) && upper.all fun u => decide (value ≤ u)

/-- The messages about one kind of CPU requirement of a container. -/
def cpuMessages (c : Container) (requests : Bool) (lower : Int) (upper : Option Int) :
    List String :=
  let kind := if requests then "request" else "limit"
  let quantity := (c.resources.bind fun r =>
    (if requests then r.requests else r.limits).get? "cpu").getD "0"
  match Cpu.millis? quantity with
  | none =>
    ["container " ++ Text.quote c.name ++ " has invalid cpu " ++ kind ++ " " ++ Text.quote quantity]
  | some m =>
    if inRange m lower upper then
      ["container " ++ Text.quote c.name ++ " has cpu " ++ kind ++ " " ++ quantity]
    else []

/-- The selector as messages print it: `key=value` pairs in key order, joined by commas. -/
def renderSelector (d : Dict) : String :=
  ",".intercalate (d.toList.map fun (k, v) => k ++ "=" ++ v)

namespace Rule

/-- The messages of a rule about an object of a context. -/
def check (r : Rule) (ctx : Context) (o : Object) : List String :=
  match r with
  | requiredMap annotations key value message =>
    let entries := (if annotations then o.annotations else o.labels).toList
    if entries.any fun (k, v) => key.accepts k && value.accepts v then [] else [message]
  | latestTag blocked allowed =>
    perContainer o fun c =>
      let image := c.image.getD ""
      let listed (list : List Pattern.Regex) : Bool := list.any (·.isMatch image)
      if !blocked.isEmpty && listed blocked then
        [imageMessage c image "are not blocked by the \x60BlockList\x60 criteria" blocked]
      else if !allowed.isEmpty && !listed allowed then
        [imageMessage c image "satisfies the \x60AllowList\x60 criteria" allowed]
      else []
  | privileged =>
    perContainer o fun c =>
      if (c.securityContext.bind (·.privileged)).getD false then
        ["container " ++ Text.quote c.name ++ " is privileged"]
      else []
  | envVar name value =>
    perContainer o fun c =>
      (c.env.filter fun e => name.accepts e.name && value.accepts (e.value.getD "")).map fun e =>
        "environment variable " ++ e.name ++ " in container " ++ Text.quote c.name ++ " found"
  | minimumReplicas least =>
    match o.body.replicas with
    | none => []
    | some n =>
      if n ≥ least then []
      else
        ["object has " ++ toString n ++ " " ++ (if n > 1 then "replicas" else "replica") ++
          " but minimum required replicas is " ++ toString least]
  | cpuRequirements requests limits lower upper =>
    perContainer o fun c =>
      (if requests then cpuMessages c true lower upper else []) ++
        (if limits then cpuMessages c false lower upper else [])
  | disallowedGvk group version kind =>
    let id := o.identity
    if group.accepts id.group && version.accepts id.version && kind.accepts id.kind then
      ["disallowed API object found: " ++ id.render]
    else []
  | danglingService ignored =>
    match o.body with
    | .service s =>
      if s.serviceType == some "ExternalName" then []
      else if s.selector.isEmpty then ["service has no selector specified"]
      else
        let selector := ignored.foldl Dict.erase s.selector
        let found := ctx.objects.any fun other =>
          other.namespace? == o.namespace? &&
            (other.template?.any fun t => selector.isSubmap t.labels)
        if found then []
        else ["no pods found matching service labels (" ++ renderSelector selector ++ ")"]
    | _ => []

end Rule

theorem inRange_none (value lower : Int) : inRange value lower none = decide (lower ≤ value) := by
  simp [inRange]

end ManifestLint
