import Mathlib
import ManifestLint.Proofs.TypedReadings

/-! # Which error a registration reports

Registering a specification runs six stages in a fixed order and stops at the first that fails:
the name must be ASCII letters, digits, `_` and `-`; the template must exist; the parameters must
validate and read into the template's record; the name must be free; every name of the scope, the
specification's own or else its template's, must be in the kind catalogue; and the template must
instantiate. The error is that of the first failing stage, whatever fails after it, so a taken
name with bad parameters is reported for its parameters. A registration that passes every stage
appends the check of the specification, as written, with its rule and its resolved scope.
-/

namespace ManifestLint

/-- The characters a check name is made of: ASCII letters and digits, `_` and `-`. -/
def IsCheckNameChar (c : Char) : Prop :=
  ('a' ≤ c ∧ c ≤ 'z') ∨ ('A' ≤ c ∧ c ≤ 'Z') ∨ ('0' ≤ c ∧ c ≤ '9') ∨ c = '_' ∨ c = '-'

theorem isCheckNameChar_iff (c : Char) :
    (c.isAlphanum || c == '_' || c == '-') = true ↔ IsCheckNameChar c := by
  simp only [Char.isAlphanum, Char.isAlpha, Char.isUpper, Char.isLower, Char.isDigit,
    IsCheckNameChar, Bool.or_eq_true, Bool.and_eq_true, decide_eq_true_eq, beq_iff_eq,
    Char.le_def, ge_iff_le]
  tauto

theorem isValidCheckName_iff (n : String) :
    isValidCheckName n = true ↔ n ≠ "" ∧ ∀ c ∈ n.toList, IsCheckNameChar c := by
  simp only [isValidCheckName, String.all_bool_eq, Bool.and_eq_true, Bool.not_eq_true',
    String.isEmpty_eq_false_iff, List.all_eq_true, isCheckNameChar_iff]

example : isValidCheckName "owner-label\n" = false := by
  simp only [isValidCheckName, String.all_bool_eq]
  decide

example : isValidCheckName "" = false := rfl

/-! ## The stages of the pipeline -/

namespace CheckSpec

variable {spec : CheckSpec} {taken : Bool} {t : Template} {params : TemplateParams}

theorem prepare_of_invalidName (hv : isValidCheckName spec.name = false) :
    spec.prepare taken = .error (.invalidName spec.name) := by
  simp [prepare, bind, Except.bind, throw, throwThe, MonadExceptOf.throw, hv]

theorem prepare_of_unknownTemplate (hv : isValidCheckName spec.name = true)
    (ht : Template.ofKey? spec.template = none) :
    spec.prepare taken = .error (.unknownTemplate spec.name spec.template) := by
  simp [prepare, throw, throwThe, MonadExceptOf.throw, hv, ht]

theorem prepare_of_invalidParameters {e : ParamsError} (hv : isValidCheckName spec.name = true)
    (ht : Template.ofKey? spec.template = some t) (hp : t.readParams spec.params = .error e) :
    spec.prepare taken = .error (.invalidParameters spec.name e) := by
  simp [prepare, bind, Except.bind, throw, throwThe, MonadExceptOf.throw, hv, ht, hp]

theorem prepare_true_of_readParams (hv : isValidCheckName spec.name = true)
    (ht : Template.ofKey? spec.template = some t) (hp : t.readParams spec.params = .ok params) :
    spec.prepare true = .error (.duplicateCheck spec.name) := by
  simp [prepare, bind, Except.bind, pure, Except.pure, throw, throwThe, MonadExceptOf.throw, hv,
    ht, hp]

theorem prepare_false_of_unknownKind {e : ScopeError} (hv : isValidCheckName spec.name = true)
    (ht : Template.ofKey? spec.template = some t) (hp : t.readParams spec.params = .ok params)
    (hs : Scope.resolve (spec.scope.getD t.objectKinds) = .error e) :
    spec.prepare false = .error (.unknownKind spec.name e) := by
  simp [prepare, bind, Except.bind, pure, Except.pure, throw, throwThe, MonadExceptOf.throw, hv,
    ht, hp, hs]

theorem prepare_false_of_instantiation {scope : Scope} {e : TemplateError}
    (hv : isValidCheckName spec.name = true) (ht : Template.ofKey? spec.template = some t)
    (hp : t.readParams spec.params = .ok params)
    (hs : Scope.resolve (spec.scope.getD t.objectKinds) = .ok scope)
    (hi : t.instantiate params = .error e) :
    spec.prepare false = .error (.instantiation spec.name e) := by
  simp [prepare, bind, Except.bind, pure, Except.pure, throw, throwThe, MonadExceptOf.throw, hv,
    ht, hp, hs, hi]

end CheckSpec

/-! ## Registering into a reachable registry -/

namespace Registry

variable {r r' : Registry} {spec : CheckSpec}

theorem registerOne_eq_error_of_prepare {e : CheckError} (hr : r.Reachable)
    (h : spec.prepare (decide (spec.name ∈ r.names)) = .error e) :
    r.registerOne spec = .error e := by
  rw [registerOne_eq_error, hr.consistent.prepare_eq]
  simpa using h

/-- A registration passes exactly when every stage does: a valid name, a known template,
parameters that read, a free name, a scope of known kinds and a template that instantiates. -/
theorem exists_registerOne_eq_ok_iff (hr : r.Reachable) :
    (∃ r', r.registerOne spec = .ok r') ↔
      isValidCheckName spec.name = true ∧ ∃ t params, Template.ofKey? spec.template = some t ∧
        t.readParams spec.params = .ok params ∧ spec.name ∉ r.names ∧
        (∀ n ∈ spec.scope.getD t.objectKinds, n ∈ KindName.labels) ∧
        ∃ rule, t.instantiate params = .ok rule := by
  constructor
  · rintro ⟨r', hone⟩
    obtain ⟨c, hc, -⟩ := registerOne_eq_ok.1 hone
    rw [hr.consistent.prepare_eq] at hc
    obtain ⟨hv, hfree, t, params, scope, rule, ht, hp, hs, hi, -⟩ := CheckSpec.prepare_eq_ok.1 hc
    exact ⟨hv, t, params, ht, hp, by simpa using hfree,
      Scope.exists_resolve_eq_ok_iff.1 ⟨scope, hs⟩, rule, hi⟩
  · rintro ⟨hv, t, params, ht, hp, hfree, hkinds, rule, hi⟩
    obtain ⟨scope, hs⟩ := Scope.exists_resolve_eq_ok_iff.2 hkinds
    have hc : r.prepare spec = .ok ⟨spec, rule, scope⟩ := by
      rw [hr.consistent.prepare_eq]
      exact CheckSpec.prepare_eq_ok.2 ⟨hv, by simpa using hfree, t, params, scope, rule, ht, hp,
        hs, hi, rfl⟩
    exact ⟨_, registerOne_eq_ok.2 ⟨_, hc, rfl⟩⟩

theorem registerOne_eq_ok_check (hr : r.Reachable) (hone : r.registerOne spec = .ok r') :
    ∃ t params rule scope, Template.ofKey? spec.template = some t ∧
      t.readParams spec.params = .ok params ∧ t.instantiate params = .ok rule ∧
      Scope.resolve (spec.scope.getD t.objectKinds) = .ok scope ∧
      r'.checks = r.checks ++ [⟨spec, rule, scope⟩] ∧ r'.load? spec.name = some ⟨spec, rule, scope⟩ := by
  obtain ⟨c, hc, rfl⟩ := registerOne_eq_ok.1 hone
  rw [hr.consistent.prepare_eq] at hc
  obtain ⟨-, -, t, params, scope, rule, ht, hp, hs, hi, rfl⟩ := CheckSpec.prepare_eq_ok.1 hc
  exact ⟨t, params, rule, scope, ht, hp, hi, hs, rfl, by simp [load?]⟩

end Registry

/-- Registering a specification into a reachable registry reports the first stage that fails. A
valid name is a non-empty run of ASCII letters, digits, `_` and `-`. A registration reports an
invalid name first, then an unknown template, then parameters that do not read, then a taken name,
then the first name of the scope (the specification's, or its template's) that is not in the kind
catalogue, then a failed instantiation. It passes exactly when no stage fails, and then appends the
check of the specification as written, with its rule and its resolved scope, under its name. -/
theorem registration_reports_first_failure {r : Registry} (hr : r.Reachable) (spec : CheckSpec) :
    (isValidCheckName spec.name = true ↔
      spec.name ≠ "" ∧ ∀ c ∈ spec.name.toList, IsCheckNameChar c) ∧
    (isValidCheckName spec.name = false → r.registerOne spec = .error (.invalidName spec.name)) ∧
    (isValidCheckName spec.name = true → Template.ofKey? spec.template = none →
      r.registerOne spec = .error (.unknownTemplate spec.name spec.template)) ∧
    (∀ t e, isValidCheckName spec.name = true → Template.ofKey? spec.template = some t →
      t.readParams spec.params = .error e →
      r.registerOne spec = .error (.invalidParameters spec.name e)) ∧
    (∀ t params, isValidCheckName spec.name = true → Template.ofKey? spec.template = some t →
      t.readParams spec.params = .ok params → spec.name ∈ r.names →
      r.registerOne spec = .error (.duplicateCheck spec.name)) ∧
    (∀ t params pre n post, isValidCheckName spec.name = true →
      Template.ofKey? spec.template = some t → t.readParams spec.params = .ok params →
      spec.name ∉ r.names → spec.scope.getD t.objectKinds = pre ++ n :: post →
      (∀ m ∈ pre, m ∈ KindName.labels) → n ∉ KindName.labels →
      r.registerOne spec = .error (.unknownKind spec.name (.unknownKind n))) ∧
    (∀ t params e, isValidCheckName spec.name = true → Template.ofKey? spec.template = some t →
      t.readParams spec.params = .ok params → spec.name ∉ r.names →
      (∀ n ∈ spec.scope.getD t.objectKinds, n ∈ KindName.labels) →
      t.instantiate params = .error e →
      r.registerOne spec = .error (.instantiation spec.name e)) ∧
    ((∃ r', r.registerOne spec = .ok r') ↔
      isValidCheckName spec.name = true ∧ ∃ t params, Template.ofKey? spec.template = some t ∧
        t.readParams spec.params = .ok params ∧ spec.name ∉ r.names ∧
        (∀ n ∈ spec.scope.getD t.objectKinds, n ∈ KindName.labels) ∧
        ∃ rule, t.instantiate params = .ok rule) ∧
    (∀ r', r.registerOne spec = .ok r' →
      ∃ t params rule scope, Template.ofKey? spec.template = some t ∧
        t.readParams spec.params = .ok params ∧ t.instantiate params = .ok rule ∧
        Scope.resolve (spec.scope.getD t.objectKinds) = .ok scope ∧
        r'.checks = r.checks ++ [⟨spec, rule, scope⟩] ∧
        r'.load? spec.name = some ⟨spec, rule, scope⟩) := by
  refine ⟨isValidCheckName_iff spec.name,
    fun hv => Registry.registerOne_eq_error_of_prepare hr (CheckSpec.prepare_of_invalidName hv),
    fun hv ht => Registry.registerOne_eq_error_of_prepare hr
      (CheckSpec.prepare_of_unknownTemplate hv ht),
    fun t e hv ht hp => Registry.registerOne_eq_error_of_prepare hr
      (CheckSpec.prepare_of_invalidParameters hv ht hp),
    fun t params hv ht hp htaken => ?_,
    fun t params pre n post hv ht hp hfree hscope hpre hn => ?_,
    fun t params e hv ht hp hfree hkinds hi => ?_,
    Registry.exists_registerOne_eq_ok_iff hr, fun r' hone => Registry.registerOne_eq_ok_check hr hone⟩
  · have hp' := CheckSpec.prepare_true_of_readParams hv ht hp
    exact Registry.registerOne_eq_error_of_prepare hr (by simpa [htaken] using hp')
  · have hs : Scope.resolve (spec.scope.getD t.objectKinds) = .error (.unknownKind n) :=
      Scope.resolve_eq_error_iff.2 ⟨pre, n, post, hscope, hpre, hn, rfl⟩
    exact Registry.registerOne_eq_error_of_prepare hr
      (by simpa [hfree] using CheckSpec.prepare_false_of_unknownKind hv ht hp hs)
  · obtain ⟨scope, hs⟩ := Scope.exists_resolve_eq_ok_iff.2 hkinds
    exact Registry.registerOne_eq_error_of_prepare hr
      (by simpa [hfree] using CheckSpec.prepare_false_of_instantiation hv ht hp hs hi)

/-- The registry of the built-in checks is reachable, so a specification registered into it passes
exactly when every stage does. -/
theorem builtin_registration_reports_first_failure :
    Registry.builtin.Reachable ∧
      ((∃ r', Registry.builtin.registerOne
          { name := "owner-label", template := "required-label", params := .null } = .ok r') ↔
        isValidCheckName "owner-label" = true ∧ ∃ t params,
          Template.ofKey? "required-label" = some t ∧ t.readParams .null = .ok params ∧
          "owner-label" ∉ Registry.builtin.names ∧
          (∀ n ∈ (none : Option (List String)).getD t.objectKinds, n ∈ KindName.labels) ∧
          ∃ rule, t.instantiate params = .ok rule) :=
  have hr : Registry.builtin.Reachable := .register builtinChecks .empty
  ⟨hr, (registration_reports_first_failure hr
    { name := "owner-label", template := "required-label", params := .null }).2.2.2.2.2.2.2.1⟩

end ManifestLint
