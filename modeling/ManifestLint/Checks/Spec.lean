import ManifestLint.Yaml.Typed
import ManifestLint.Text.Blank

/-! # Check specifications and configuration

A check is specified by a name, the key of its template, a description, an optional remediation,
an optional scope of object kinds that overrides the template's, and the template's parameters as
a YAML value. A configuration says which checks run: the default checks unless turned off, every
built-in check if asked, checks it defines itself, checks it includes, and not those it excludes.

Both are read from YAML by the record shapes below; their field names are those of the
configuration file.
-/

namespace ManifestLint

open Yaml

/-- A check: a named, scoped, parameterized use of a template. -/
structure CheckSpec where
  name : String
  description : String := ""
  remediation : Option String := none
  /-- The object kinds the check looks at, overriding its template's. -/
  scope : Option (List String) := none
  template : String
  params : Value := .null
deriving Repr, Inhabited

/-- Which checks a configuration turns on and off. -/
structure ChecksConfig where
  addAllBuiltIn : Bool := false
  doNotAutoAddDefaults : Bool := false
  includes : List String := []
  excludes : List String := []
deriving DecidableEq, Repr, Inhabited

/-- A configuration: which checks run, and checks it defines. -/
structure Config where
  checks : ChecksConfig := {}
  customChecks : List CheckSpec := []
deriving Repr, Inhabited

/-- The shape of a scope. -/
def scopeShape : Shape :=
  .record "ObjectKindsDesc" [("objectKinds", false, .repeated .text)]

/-- The shape of a check specification. -/
def specShape : Shape :=
  .record "CheckSpec"
    [("name", true, .text), ("description", false, .text), ("remediation", false, .optional .text),
     ("scope", false, .optional scopeShape), ("template", true, .text), ("params", false, .value)]

/-- The shape of the check selection of a configuration. -/
def checksShape : Shape :=
  .record "ChecksConfig"
    [("addAllBuiltIn", false, .bool), ("doNotAutoAddDefaults", false, .bool),
     ("include", false, .repeated .text), ("exclude", false, .repeated .text)]

/-- The shape of a configuration. -/
def configShape : Shape :=
  .record "Config" [("checks", false, checksShape), ("customChecks", false, .repeated specShape)]

/-- A check specification from its decoded record. -/
def CheckSpec.ofDecoded (d : Decoded) : CheckSpec :=
  { name := ((d.field? "name").map Decoded.toText).getD ""
    description := ((d.field? "description").map Decoded.toText).getD ""
    remediation := ((d.field? "remediation").bind Decoded.toOption).map Decoded.toText
    scope := ((d.field? "scope").bind Decoded.toOption).map (·.texts "objectKinds")
    template := ((d.field? "template").map Decoded.toText).getD ""
    params := ((d.field? "params").map Decoded.toValue).getD .null }

/-- A configuration from its decoded record. -/
def Config.ofDecoded (d : Decoded) : Config :=
  let checks := (d.field? "checks").getD (.record [])
  { checks :=
      { addAllBuiltIn := ((checks.field? "addAllBuiltIn").map Decoded.toBool).getD false
        doNotAutoAddDefaults :=
          ((checks.field? "doNotAutoAddDefaults").map Decoded.toBool).getD false
        includes := checks.texts "include"
        excludes := checks.texts "exclude" }
    customChecks :=
      ((d.field? "customChecks").map fun l => l.toItems.map CheckSpec.ofDecoded).getD [] }

/-- Reads a check specification from YAML text. -/
def CheckSpec.read (text : String) : Except LoadError CheckSpec :=
  (readShape text specShape).map CheckSpec.ofDecoded

/-- Why a configuration could not be read. -/
structure ConfigError where
  error : LoadError

/-- The text of a configuration error. -/
def ConfigError.message (e : ConfigError) : String :=
  "failed to parse config: " ++ e.error.render

/-- Reads a configuration from YAML text; blank text is the default configuration. -/
def Config.read (text : String) : Except ConfigError Config :=
  if (Text.dropBlank text.toList).isEmpty then .ok {}
  else
    match readShape text configShape with
    | .ok d => .ok (Config.ofDecoded d)
    | .error e => .error ⟨e⟩

end ManifestLint
