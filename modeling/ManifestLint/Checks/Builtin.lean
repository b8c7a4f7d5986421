import ManifestLint.Checks.Spec

/-! # Built-in checks

The checks that come with the linter are plain specifications over the built-in templates, so they
go through the same registration as checks a configuration defines. Six of them run by default.
-/

namespace ManifestLint

open Yaml

/-- The checks that run unless a configuration turns the defaults off. -/
def defaultChecks : List String :=
  ["dangling-service", "env-var-secret", "latest-tag", "no-extensions-v1beta",
    "privileged-container", "unset-cpu-requirements"]

/-- Parameters as a mapping from texts to values. -/
def paramsOf (entries : List (String × Value)) : Value :=
  .mapping (entries.map fun (k, v) => (.string k, v))

/-- A list of texts as a value. -/
def textsValue (items : List String) : Value :=
  .sequence (items.map .string)

/-- Every built-in check. -/
def builtinChecks : List CheckSpec :=
  [{ name := "dangling-service", template := "dangling-service",
     description := "Indicates when services do not have any associated deployments.",
     remediation := some ("Confirm that your service's selector correctly matches the labels " ++
       "on one of your deployments."),
     scope := some ["Service"] },
   { name := "env-var-secret", template := "env-var",
     description := "Indicates when objects use a secret in an environment variable.",
     remediation := some ("Do not use raw secrets in environment variables. Instead, either " ++
       "mount the secret as a file or use a secretKeyRef."),
     scope := some ["DeploymentLike"],
     params := paramsOf [("name", .string "(?i).*secret.*"), ("value", .string ".+")] },
   { name := "latest-tag", template := "latest-tag",
     description := "Indicates when a deployment-like object is running a container with an " ++
       "invalid container image.",
     remediation := some "Use a container image with a specific tag other than latest.",
     scope := some ["DeploymentLike"],
     params := paramsOf [("blockList", textsValue [".*:(latest)$", "^[^:]*$", "(.*/[^:]+)$"])] },
   { name := "minimum-three-replicas", template := "minimum-replicas",
     description := "Indicates when a deployment uses less than three replicas.",
     remediation := some ("Increase the number of replicas in your deployment to at least " ++
       "three to increase the fault tolerance of the deployment."),
     scope := some ["DeploymentLike"],
     params := paramsOf [("minReplicas", .number (.nat 3))] },
   { name := "no-extensions-v1beta", template := "disallowed-api-obj",
     description := "Indicates when objects use deprecated API versions under extensions/v1beta.",
     remediation := some "Migrate using the apps/v1 API versions for the objects.",
     scope := some ["Any"],
     params := paramsOf [("group", .string "^extensions$"), ("version", .string "^v1beta.+$")] },
   { name := "privileged-container", template := "privileged",
     description := "Indicates when deployments have containers running in privileged mode.",
     remediation := some "Do not run your container as privileged unless it is required.",
     scope := some ["DeploymentLike"] },
   { name := "required-annotation-email", template := "required-annotation",
     description := "Indicates when objects do not have an email annotation with a valid email " ++
       "address.",
     remediation := some ("Add an email annotation to your object with the email address of " ++
       "the object's owner."),
     scope := some ["DeploymentLike"],
     params := paramsOf [("key", .string "email"),
       ("value", .string "[a-zA-Z0-9._%+-]+@[a-zA-Z0-9.-]+\\.[a-zA-Z]\x7b2,\x7d")] },
   { name := "required-label-owner", template := "required-label",
     description := "Indicates when objects do not have an owner label.",
     remediation := some ("Add an owner label to your object with the name of the team that " ++
       "owns it."),
     scope := some ["DeploymentLike"],
     params := paramsOf [("key", .string "owner")] },
   { name := "unset-cpu-requirements", template := "cpu-requirements",
     description := "Indicates when containers do not have CPU requests and limits set.",
     remediation := some ("Set CPU requests and limits for your container based on its " ++
       "requirements."),
     scope := some ["DeploymentLike"],
     params := paramsOf [("requirementsType", .string "any"),
       ("lowerBoundMillis", .number (.nat 0)), ("upperBoundMillis", .number (.nat 0))] }]

theorem defaultChecks_builtin :
    defaultChecks.all (fun n => builtinChecks.any (·.name == n)) = true := by
  decide

end ManifestLint
