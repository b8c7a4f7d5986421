import ManifestLint.Text.Blank
import ManifestLint.Decimal.Read
import ManifestLint.Manifest.Kind
import ManifestLint.Manifest.Identity
import ManifestLint.Scope
import ManifestLint.Resources.Cpu
import ManifestLint.Yaml.Lexer
import ManifestLint.Yaml.Event
import ManifestLint.Text.RangeTable
import ManifestLint.Text.Unprintable
import ManifestLint.Text.Extending
import ManifestLint.Text.Escaped
import ManifestLint.Decimal.Shortest
import ManifestLint.Yaml.Value
import ManifestLint.Yaml.Scalar
import ManifestLint.Yaml.Document
import ManifestLint.Yaml.Printer
import ManifestLint.Manifest.Dict
import ManifestLint.Manifest.Object
import ManifestLint.Manifest.Sections
import ManifestLint.Manifest.Context
import ManifestLint.Params.Schema
import ManifestLint.Params.Validate
import ManifestLint.Text.Category
import ManifestLint.Text.Script
import ManifestLint.Text.Property
import ManifestLint.Text.CaseFold
import ManifestLint.Text.ScriptExtension
import ManifestLint.Text.Age
import ManifestLint.Text.Breaks
import ManifestLint.Text.Identifier
import ManifestLint.Pattern.Syntax
import ManifestLint.Pattern.Error
import ManifestLint.Pattern.CharSet
import ManifestLint.Pattern.Unicode
import ManifestLint.Pattern.Parser
import ManifestLint.Pattern.Lower
import ManifestLint.Pattern.Automaton
import ManifestLint.Pattern.Utf8Ranges
import ManifestLint.Pattern.Form
import ManifestLint.Pattern.Footprint
import ManifestLint.Pattern.Regex
import ManifestLint.Pattern.Matcher
import ManifestLint.Templates.Params
import ManifestLint.Templates.Catalog
import ManifestLint.Templates.Rule
import ManifestLint.Templates.Instantiate
import ManifestLint.Yaml.Typed
import ManifestLint.Checks.Spec
import ManifestLint.Checks.Builtin
import ManifestLint.Checks.Registry
import ManifestLint.Checks.Run
import ManifestLint.Checks.Lint
import ManifestLint.Checks.Docs
import ManifestLint.Proofs.Validation
import ManifestLint.Proofs.RegistryIndex
import ManifestLint.Proofs.BatchRegistration
import ManifestLint.Proofs.ParameterRecords
import ManifestLint.Proofs.ManifestReading
import ManifestLint.Proofs.CheckRuns
import ManifestLint.Proofs.IgnoreAnnotations
import ManifestLint.Proofs.LintOutcome
import ManifestLint.Proofs.KindScopes
import ManifestLint.Proofs.TypedReadings
import ManifestLint.Proofs.RegistrationErrors
import ManifestLint.Proofs.EnabledChecks
import ManifestLint.Proofs.NullEntries
import ManifestLint.Proofs.MatcherNegation
import ManifestLint.Proofs.NormalNumbers
import ManifestLint.Proofs.WrittenRecords
import ManifestLint.Proofs.DanglingServices
import ManifestLint.Proofs.PatternRules
import ManifestLint.Proofs.ApiVersions
import ManifestLint.Proofs.SectionRuns
import ManifestLint.Proofs.ObjectReading
import ManifestLint.Proofs.CpuRequirements
