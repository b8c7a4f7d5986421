import ManifestLint.Templates.Params

/-! # The templates

A template is a reusable check that parameters turn into a concrete one. Each template has a key,
a name and a description for people, the object kinds its checks look at unless a check narrows
them, the schema of its parameters, and the kind of record its parameters are read into.

The catalogue lists the templates in the order of their keys.
-/

namespace ManifestLint

open Yaml

/-- The templates of checks. -/
inductive Template
  | requiredLabel
  | requiredAnnotation
  | latestTag
  | privileged
  | envVar
  | minimumReplicas
  | cpuRequirements
  | disallowedApiObject
  | danglingService
deriving DecidableEq, Repr

namespace Template

/-- The key a template is known by. -/
def key : Template → String
  | requiredLabel => "required-label"
  | requiredAnnotation => "required-annotation"
  | latestTag => "latest-tag"
  | privileged => "privileged"
  | envVar => "env-var"
  | minimumReplicas => "minimum-replicas"
  | cpuRequirements => "cpu-requirements"
  | disallowedApiObject => "disallowed-api-obj"
  | danglingService => "dangling-service"

/-- The name of a template for people. -/
def humanName : Template → String
  | requiredLabel => "Required Label"
  | requiredAnnotation => "Required Annotation"
  | latestTag => "Latest Tag"
  | privileged => "Privileged Containers"
  | envVar => "Environment Variables"
  | minimumReplicas => "Minimum replicas"
  | cpuRequirements => "CPU Requirements"
  | disallowedApiObject => "Disallowed API Objects"
  | danglingService => "Dangling Services"

/-- What a template flags. -/
def description : Template → String
  | requiredLabel =>
    "Flag objects not carrying at least one label matching the provided patterns"
  | requiredAnnotation =>
    "Flag objects not carrying at least one annotation matching the provided patterns"
  | latestTag =>
    "Flag applications running container images that do not satisfy \"allowList\" & " ++
      "\"blockList\" parameters criteria."
  | privileged => "Flag privileged containers"
  | envVar => "Flag environment variables that match the provided patterns"
  | minimumReplicas => "Flag applications running fewer than the specified number of replicas"
  | cpuRequirements => "Flag containers with CPU requirements in the given range"
  | disallowedApiObject => "Flag disallowed API object kinds"
  | danglingService => "Flag services which do not match any application"

/-- The object kinds a template's checks look at unless a check says otherwise. -/
def objectKinds : Template → List String
  | requiredLabel | requiredAnnotation | disallowedApiObject => ["Any"]
  | danglingService => ["Service"]
  | _ => ["DeploymentLike"]

/-- The parameters of the required-label and required-annotation templates. -/
def mapParameters (field : String) : List ParamSpec :=
  [{ name := "key", type := .string, description := "Key of the required " ++ field ++ ".",
     required := true },
   { name := "value", type := .string, description := "Value of the required " ++ field ++ "." }]

/-- The schema of a template's parameters. -/
def parameters : Template → List ParamSpec
  | requiredLabel => mapParameters "label"
  | requiredAnnotation => mapParameters "annotation"
  | latestTag =>
    [{ name := "blockList", type := .array, elementType := some .string,
       description := "list of regular expressions for blocked or bad container image tags",
       examples := [".*:(latest)$", "^[^:]*$", "(.*/[^:]+)$"] },
     { name := "allowList", type := .array, elementType := some .string,
       description := "list of regular expressions for allowed container image tags",
       examples := [".*:[0-9]+\\.[0-9]+\\.[0-9]+$"] }]
  | privileged => []
  | envVar =>
    [{ name := "name", type := .string, description := "The name of the environment variable.",
       required := true },
     { name := "value", type := .string,
       description := "The value of the environment variable." }]
  | minimumReplicas =>
    [{ name := "minReplicas", type := .integer,
       description := "The minimum number of replicas a deployment must have", required := true }]
  | cpuRequirements =>
    [{ name := "requirementsType", type := .string,
       description :=
         "The type of requirement. Use any to apply to both requests and limits.",
       choices := ["request", "limit", "any"], required := true, regexAllowed := false,
       negationAllowed := false },
     { name := "lowerBoundMillis", type := .integer,
       description := "The lower bound of the requirement (inclusive), specified as a number " ++
         "of milli-cores. If not specified, it is treated as a lower bound of zero." },
     { name := "upperBoundMillis", type := .integer,
       description := "The upper bound of the requirement (inclusive), specified as a number " ++
         "of milli-cores. If not specified, it is treated as \"no upper bound\"." }]
  | disallowedApiObject =>
    [{ name := "group", type := .string, description := "The disallowed object group.",
       examples := ["apps"] },
     { name := "version", type := .string, description := "The disallowed object API version.",
       examples := ["v1", "v1beta1"] },
     { name := "kind", type := .string, description := "The disallowed kind.",
       examples := ["Deployment", "DaemonSet"] }]
  | danglingService =>
    [{ name := "ignoredLabels", type := .array, elementType := some .string,
       description :=
         "A list of labels that will be ignored when checking for dangling services." }]

/-- The kind of record a template reads its parameters into. -/
def record : Template → RecordKind
  | requiredLabel | requiredAnnotation => .requiredMap
  | latestTag => .latestTag
  | privileged => .empty
  | envVar => .envVar
  | minimumReplicas => .minimumReplicas
  | cpuRequirements => .cpuRequirements
  | disallowedApiObject => .disallowedGvk
  | danglingService => .danglingService

/-- Every template, in the order of their keys. -/
def all : List Template :=
  [cpuRequirements, danglingService, disallowedApiObject, envVar, latestTag, minimumReplicas,
    privileged, requiredAnnotation, requiredLabel]

/-- The template with a key. -/
def ofKey? (key : String) : Option Template :=
  all.find? (·.key == key)

/-- Validates a payload against a template's schema and reads it into the template's record. -/
def readParams (t : Template) (payload : Value) : Except ParamsError TemplateParams :=
  ManifestLint.readParams t.record t.parameters payload

theorem ofKey?_key (t : Template) : ofKey? t.key = some t := by
  cases t <;> rfl

end Template

end ManifestLint
