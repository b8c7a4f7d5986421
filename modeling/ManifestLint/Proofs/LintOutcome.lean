import Mathlib
import ManifestLint.Checks.Lint
import ManifestLint.Proofs.BatchRegistration
import ManifestLint.Proofs.ParameterRecords

/-! # What linting returns

Linting registers the built-in checks, then the checks a configuration defines, resolves the
names the configuration enables, and runs the checks of those names over the contexts.

Every built-in check passes the registration pipeline and no two share a name, so the built-in
batch always registers, and what linting returns is decided by the configuration alone. It fails
with the errors of the configuration's rejected checks when any is rejected; otherwise with the
enabled names that are not registered, when there are any; otherwise it returns the enabled names
in strictly increasing order, each of which loads, and runs the loaded checks in that order.
-/

namespace ManifestLint

open Yaml

variable {spec : CheckSpec} {t : Template} {kept : List (Value × Value)} {params : TemplateParams}

theorem CheckSpec.admissible_of_stages (hname : isValidCheckName spec.name = true)
    (ht : Template.ofKey? spec.template = some t)
    (hv : validateParams t.parameters spec.params = .ok kept) (hr : t.record.read kept = .ok params)
    (hs : (Scope.resolve (spec.scope.getD t.objectKinds)).isOk = true)
    (hi : (t.instantiate params).isOk = true) : spec.admissible = true := by
  have hp : t.readParams spec.params = .ok params := by rw [Template.readParams_of_ok hv, hr]
  obtain ⟨scope, hscope⟩ : ∃ scope, Scope.resolve (spec.scope.getD t.objectKinds) = .ok scope := by
    revert hs
    cases Scope.resolve (spec.scope.getD t.objectKinds) <;> simp [Except.isOk, Except.toBool]
  obtain ⟨rule, hrule⟩ : ∃ rule, t.instantiate params = .ok rule := by
    revert hi
    cases t.instantiate params <;> simp [Except.isOk, Except.toBool]
  exact CheckSpec.admissible_iff.2 ⟨_, CheckSpec.prepare_eq_ok.2
    ⟨hname, rfl, t, params, scope, rule, ht, hp, hscope, hrule, rfl⟩⟩

theorem CheckSpec.prepare_true_eq_error : ∃ e, spec.prepare true = .error e := by
  cases h : spec.prepare true with
  | error e => exact ⟨e, rfl⟩
  | ok c => exact nomatch (CheckSpec.prepare_eq_ok.1 h).2.1

theorem builtinChecks_admissible : ∀ s ∈ builtinChecks, s.admissible = true := by
  simp only [builtinChecks, List.mem_cons, List.not_mem_nil, or_false]
  rintro s (rfl | rfl | rfl | rfl | rfl | rfl | rfl | rfl | rfl)
  -- the stages are evaluated: validation by rewriting, since it recurses on the size of values,
  -- with `rfl` naming the entries it keeps; the record, the scope and the compiled patterns in
  -- the kernel
  all_goals
    refine CheckSpec.admissible_of_stages
      (by simp only [isValidCheckName, String.all_bool_eq]; decide) rfl
      (by simp [paramsOf, textsValue, validateParams, checkMapping, checkEntries, checkParam,
        checkType, checkElements, missingFields, Template.parameters, ParamSpec.find?,
        Value.asString?, Value.untag, Value.get?, Value.isKey, Value.isNull, ParamType.accepts]; rfl)
      rfl (by decide +kernel) (by decide +kernel)

namespace Registry

variable {r : Registry} {specs : List CheckSpec} {errs : List CheckError}

theorem foldl_registerStep_of_fresh (h : r.Consistent) (hadm : ∀ s ∈ specs, s.admissible = true)
    (hfresh : (r.names ++ specs.map (·.name)).Nodup) :
    (specs.foldl registerStep (r, errs)).2 = errs ∧
      (specs.foldl registerStep (r, errs)).1.names = r.names ++ specs.map (·.name) := by
  induction specs generalizing r with
  | nil => simp
  | cons s specs ih =>
    rw [List.map_cons] at hfresh
    have hs : s.name ∉ r.names := fun hm =>
      List.disjoint_of_nodup_append hfresh hm List.mem_cons_self
    obtain ⟨c, hc⟩ := CheckSpec.admissible_iff.1 (hadm s List.mem_cons_self)
    have hprep : r.prepare s = .ok c := by
      rw [h.prepare_eq, show r.names.contains s.name = false by simpa using hs, hc]
    have hreg := registerOne_eq_ok.2 ⟨c, hprep, rfl⟩
    have hnames := names_of_registerOne hreg
    rw [List.foldl_cons, registerStep_of_ok hreg]
    obtain ⟨herrs, hnames'⟩ := ih (h.registerOne hreg)
      (fun t ht => hadm t (List.mem_cons_of_mem s ht)) (by simpa [hnames] using hfresh)
    exact ⟨herrs, by simp [hnames', hnames]⟩

theorem register_builtinChecks :
    (({} : Registry).register builtinChecks).2 = none ∧
      builtin.names = builtinChecks.map (·.name) := by
  have hfresh : (({} : Registry).names ++ builtinChecks.map (·.name)).Nodup := by decide
  obtain ⟨herrs, hnames⟩ :=
    @foldl_registerStep_of_fresh {} builtinChecks [] consistent_empty builtinChecks_admissible hfresh
  refine ⟨by rw [register_snd, herrs]; rfl, ?_⟩
  rw [builtin, register_fst, hnames]
  rfl

theorem register_builtinChecks_eq : ({} : Registry).register builtinChecks = (builtin, none) :=
  Prod.ext rfl register_builtinChecks.1

theorem batchOutcome_taken_eq_error {pre : List CheckSpec}
    (htaken : spec.name ∈ r.names ∨ ∃ t ∈ pre, t.name = spec.name ∧ t.admissible = true) :
    ∃ e, r.batchOutcome pre spec = .error e := by
  have hbusy : (r.names.contains spec.name ||
      pre.any fun t => t.name == spec.name && t.admissible) = true := by
    simpa using htaken
  rw [batchOutcome, hbusy]
  exact CheckSpec.prepare_true_eq_error

theorem exists_not_isOk_iff {outcomes : List (CheckSpec × Except CheckError RegisteredCheck)} :
    (∃ o ∈ outcomes, o.2.isOk = false) ↔ rejectedErrors outcomes ≠ [] := by
  rw [Ne, rejectedErrors_eq_nil_iff]
  simp

theorem register_snd_eq (h : r.Consistent) (specs : List CheckSpec) :
    (r.register specs).2 = if rejectedErrors (r.batchOutcomes specs) = [] then none
      else some ⟨rejectedErrors (r.batchOutcomes specs)⟩ := by
  rw [register_snd, (foldl_registerStep_eq h specs []).2, List.nil_append]
  exact ite_cond_congr (by simp)

end Registry

theorem consistent_builtin : Registry.builtin.Consistent :=
  Registry.consistent_empty.register builtinChecks

theorem Config.consistent_registry (cfg : Config) : cfg.registry.1.Consistent :=
  consistent_builtin.register cfg.customChecks

/-! ## The enabled names -/

section Enabled

variable {n a : String} {l names : List String}

theorem mem_insertSorted : a ∈ insertSorted n l ↔ a = n ∨ a ∈ l := by
  induction l with
  | nil => simp [insertSorted]
  | cons m l ih =>
    simp only [insertSorted]
    split
    · simp
    · split
      · rename_i heq
        subst heq
        simp
      · simp [ih, or_left_comm]

theorem pairwise_insertSorted (hl : l.Pairwise (· < ·)) : (insertSorted n l).Pairwise (· < ·) := by
  induction l with
  | nil => simp [insertSorted]
  | cons m l ih =>
    obtain ⟨hm, hl⟩ := List.pairwise_cons.1 hl
    simp only [insertSorted]
    split
    · rename_i hlt
      refine List.pairwise_cons.2 ⟨fun b hb => ?_, List.pairwise_cons.2 ⟨hm, hl⟩⟩
      rcases List.mem_cons.1 hb with rfl | hb
      · exact hlt
      · exact String.lt_trans hlt (hm b hb)
    · split
      · exact List.pairwise_cons.2 ⟨hm, hl⟩
      · rename_i hnlt hne
        have hgt : m < n := String.not_le.1 fun hle =>
          hne (String.le_antisymm hle (String.not_lt.1 hnlt))
        refine List.pairwise_cons.2 ⟨fun b hb => ?_, ih hl⟩
        rcases mem_insertSorted.1 hb with rfl | hb
        · exact hgt
        · exact hm b hb

theorem pairwise_foldl_insertSorted (sources : List String) (hl : l.Pairwise (· < ·)) :
    (sources.foldl (fun acc n => insertSorted n acc) l).Pairwise (· < ·) := by
  induction sources generalizing l with
  | nil => exact hl
  | cons s sources ih => exact ih (pairwise_insertSorted hl)

theorem Config.enabledChecks_eq_ok {c : Config} {r : Registry} (h : c.enabledChecks r = .ok names) :
    names.Pairwise (· < ·) ∧ ∀ n ∈ names, (r.load? n).isSome := by
  simp only [Config.enabledChecks] at h
  rw [ite_eq_iff] at h
  rcases h with ⟨hmissing, h⟩ | ⟨-, h⟩
  · obtain rfl := Except.ok.inj h
    refine ⟨(pairwise_foldl_insertSorted _ List.Pairwise.nil).filter _, fun n hn => ?_⟩
    exact Option.ne_none_iff_isSome.1
      (by simpa using List.filter_eq_nil_iff.1 (List.isEmpty_iff.1 hmissing) n hn)
  · cases h

theorem map_eq_map_some_filterMap {α β : Type} {f : α → Option β} {l : List α}
    (h : ∀ a ∈ l, (f a).isSome) : l.map f = (l.filterMap f).map some := by
  rw [List.map_filterMap_some_eq_filter_map_isSome, List.filter_eq_self.2]
  simpa using h

theorem filterMap_eq_of_map_eq_map_some {α β : Type} {f : α → Option β} {l : List α}
    {ks : List β} (h : l.map f = ks.map some) : l.filterMap f = ks := by
  induction l generalizing ks with
  | nil => cases ks <;> simp_all
  | cons a l ih =>
    cases ks with
    | nil => simp at h
    | cons k ks =>
      obtain ⟨hk, hl⟩ := List.cons.inj h
      simp [hk, ih hl]

end Enabled

theorem map_name_filterMap_load? {r : Registry} (h : r.Consistent) {names : List String}
    (hload : ∀ n ∈ names, (r.load? n).isSome) : (names.filterMap r.load?).map (·.spec.name) = names := by
  induction names with
  | nil => rfl
  | cons n names ih =>
    obtain ⟨k, hk⟩ := Option.isSome_iff_exists.1 (hload n List.mem_cons_self)
    rw [List.filterMap_cons_some hk, List.map_cons, h.name_of_load?_eq_some hk,
      ih fun m hm => hload m (List.mem_cons_of_mem n hm)]

theorem foldl_add_objects (C : List Context) (k : Nat) :
    C.foldl (fun n c => n + c.objects.length) k = k + (C.map (·.objects.length)).sum := by
  induction C generalizing k with
  | nil => simp
  | cons c C ih => rw [List.foldl_cons, ih, List.map_cons, List.sum_cons, Nat.add_assoc]

/-! ## The branches of linting -/

section Branches

variable {C : List Context} {cfg : Config}

theorem lint_of_registry_error {e : RegistrationErrors} (h : cfg.registry.2 = some e) :
    lint C cfg = .error (.registration e) := by
  simp only [lint, Registry.register_builtinChecks_eq]
  rw [show Registry.builtin.register cfg.customChecks = (cfg.registry.1, cfg.registry.2) from rfl, h]
  rfl

theorem lint_of_missing {missing : List String} (h : cfg.registry.2 = none)
    (hm : cfg.enabledChecks cfg.registry.1 = .error missing) :
    lint C cfg = .error (.unknownChecks missing) := by
  simp only [lint, Registry.register_builtinChecks_eq]
  rw [show Registry.builtin.register cfg.customChecks = (cfg.registry.1, cfg.registry.2) from rfl, h]
  simp [hm, bind, Except.bind, throw, throwThe, MonadExceptOf.throw]

theorem lint_of_enabled {names : List String} (h : cfg.registry.2 = none)
    (hn : cfg.enabledChecks cfg.registry.1 = .ok names) :
    lint C cfg = .ok
      { reports := runChecks C (names.filterMap cfg.registry.1.load?), checks := names,
        objectsAnalyzed := C.foldl (fun n c => n + c.objects.length) 0,
        checksRun := (names.filterMap cfg.registry.1.load?).length,
        status := if (runChecks C (names.filterMap cfg.registry.1.load?)).isEmpty then .passed
          else .failed } := by
  simp only [lint, Registry.register_builtinChecks_eq]
  rw [show Registry.builtin.register cfg.customChecks = (cfg.registry.1, cfg.registry.2) from rfl, h]
  simp [hn, bind, Except.bind, pure, Except.pure]

theorem status_eq_failed_iff {rs : List Report} :
    (if rs.isEmpty then CheckStatus.passed else .failed) = .failed ↔ rs ≠ [] := by
  cases rs <;> simp

end Branches

/-! ## What linting returns -/

section Outcome

variable {C : List Context} {cfg : Config}

/-- Linting fails over registration exactly when the configuration's own batch reports errors,
and with those errors. -/
theorem lint_eq_registration_iff {e : RegistrationErrors} :
    lint C cfg = .error (.registration e) ↔ cfg.registry.2 = some e := by
  refine ⟨fun h => ?_, lint_of_registry_error⟩
  cases hr : cfg.registry.2 with
  | some e' =>
    rw [lint_of_registry_error hr] at h
    cases h
    rfl
  | none =>
    cases hn : cfg.enabledChecks cfg.registry.1 with
    | error m => rw [lint_of_missing hr hn] at h; cases h
    | ok names => rw [lint_of_enabled hr hn] at h; cases h

theorem lint_eq_unknownChecks_iff {missing : List String} :
    lint C cfg = .error (.unknownChecks missing) ↔
      cfg.registry.2 = none ∧ cfg.enabledChecks cfg.registry.1 = .error missing := by
  refine ⟨fun h => ?_, fun ⟨hr, hn⟩ => lint_of_missing hr hn⟩
  cases hr : cfg.registry.2 with
  | some e => rw [lint_of_registry_error hr] at h; cases h
  | none =>
    cases hn : cfg.enabledChecks cfg.registry.1 with
    | error m =>
      rw [lint_of_missing hr hn] at h
      cases h
      exact ⟨rfl, rfl⟩
    | ok names => rw [lint_of_enabled hr hn] at h; cases h

/-- Linting succeeds exactly when the configuration's batch registers and its enabled names all
load; the result lists the enabled names, strictly increasing, and runs the checks they load, in
that order. -/
theorem lint_eq_ok_iff {res : LintResult} :
    lint C cfg = .ok res ↔
      cfg.registry.2 = none ∧ cfg.enabledChecks cfg.registry.1 = .ok res.checks ∧
      res.checks.Pairwise (· < ·) ∧
      (∃ ks : List RegisteredCheck, res.checks.map cfg.registry.1.load? = ks.map some ∧
        ks.map (·.spec.name) = res.checks ∧ res.reports = runChecks C ks) ∧
      res.checksRun = res.checks.length ∧
      res.objectsAnalyzed = (C.map (·.objects.length)).sum ∧
      (res.status = .failed ↔ res.reports ≠ []) ∧
      (res.hasFailures = true ↔ res.status = .failed) := by
  constructor
  · intro h
    cases hr : cfg.registry.2 with
    | some e => rw [lint_of_registry_error hr] at h; cases h
    | none =>
      cases hn : cfg.enabledChecks cfg.registry.1 with
      | error m => rw [lint_of_missing hr hn] at h; cases h
      | ok names =>
        rw [lint_of_enabled hr hn] at h
        obtain rfl := Except.ok.inj h
        obtain ⟨hsorted, hload⟩ := Config.enabledChecks_eq_ok hn
        have hmap := map_eq_map_some_filterMap hload
        refine ⟨rfl, rfl, hsorted, ⟨_, hmap, map_name_filterMap_load? cfg.consistent_registry hload,
          rfl⟩, ?_, by simp only [foldl_add_objects, Nat.zero_add], status_eq_failed_iff, ?_⟩
        · simpa using (congrArg List.length hmap).symm
        · rw [status_eq_failed_iff]
          simp [LintResult.hasFailures]
  · rintro ⟨hr, hn, -, ⟨ks, hks, -, hreports⟩, hrun, hobjects, hstatus, -⟩
    rw [lint_of_enabled hr hn, filterMap_eq_of_map_eq_map_some hks]
    obtain ⟨reports, checks, objectsAnalyzed, checksRun, status⟩ := res
    simp only at hreports hrun hobjects hstatus hks ⊢
    subst hreports hrun hobjects
    have hlen : ks.length = checks.length := by simpa using (congrArg List.length hks).symm
    have hst : (if (runChecks C ks).isEmpty then CheckStatus.passed else .failed) = status := by
      cases status <;> simp_all
    rw [hlen, foldl_add_objects, Nat.zero_add, hst]

/-- Linting contexts under a configuration. The built-in checks always register. Linting fails
over registration exactly when one of the configuration's checks is rejected, with the errors of
the rejected checks in order; a check whose name is built in, or carried by an earlier admissible
check of the configuration, is always rejected. Otherwise it fails with the enabled names that are
not registered exactly when there are such names. Otherwise it succeeds: its checks are the
enabled names, strictly increasing; each name loads a check of that name, and the loaded checks
run over the contexts in name order; as many checks run as there are names; the objects analyzed
are the valid objects of all contexts; and the run fails exactly when it reports, which is when it
has failures. Linting a text is linting the one context read from it as standard input. -/
theorem lint_outcome (C : List Context) (cfg : Config) :
    (({} : Registry).register builtinChecks).2 = none ∧
    (∀ e, lint C cfg = .error (.registration e) ↔
      (∃ o ∈ Registry.builtin.batchOutcomes cfg.customChecks, o.2.isOk = false) ∧
        e.errors = Registry.rejectedErrors (Registry.builtin.batchOutcomes cfg.customChecks)) ∧
    (∀ i spec, cfg.customChecks[i]? = some spec →
      (spec.name ∈ builtinChecks.map (·.name) ∨
        ∃ t ∈ cfg.customChecks.take i, t.name = spec.name ∧ t.admissible = true) →
      ∃ e, (Registry.builtin.batchOutcomes cfg.customChecks)[i]? = some (spec, .error e)) ∧
    (∀ missing, lint C cfg = .error (.unknownChecks missing) ↔
      cfg.registry.2 = none ∧ cfg.enabledChecks cfg.registry.1 = .error missing) ∧
    (∀ res, lint C cfg = .ok res ↔
      cfg.registry.2 = none ∧ cfg.enabledChecks cfg.registry.1 = .ok res.checks ∧
      res.checks.Pairwise (· < ·) ∧
      (∃ ks : List RegisteredCheck, res.checks.map cfg.registry.1.load? = ks.map some ∧
        ks.map (·.spec.name) = res.checks ∧ res.reports = runChecks C ks) ∧
      res.checksRun = res.checks.length ∧
      res.objectsAnalyzed = (C.map (·.objects.length)).sum ∧
      (res.status = .failed ↔ res.reports ≠ []) ∧
      (res.hasFailures = true ↔ res.status = .failed)) ∧
    ∀ text, lintContent text cfg = lint [Context.ofText "<stdin>" text] cfg := by
  refine ⟨Registry.register_builtinChecks.1, fun e => ?_, fun i spec hi htaken => ?_,
    fun _ => lint_eq_unknownChecks_iff, fun _ => lint_eq_ok_iff, fun _ => rfl⟩
  · rw [lint_eq_registration_iff, Config.registry, Registry.register_snd_eq consistent_builtin,
      Registry.exists_not_isOk_iff]
    split_ifs with hnil
    · simp [hnil]
    · cases e
      simp [hnil, eq_comm]
  · rw [Registry.getElem?_batchOutcomes, hi, Option.map_some]
    obtain ⟨e, he⟩ := Registry.batchOutcome_taken_eq_error
      (htaken.imp_left fun h => by rwa [Registry.register_builtinChecks.2])
    exact ⟨e, by rw [he]⟩

end Outcome

end ManifestLint
