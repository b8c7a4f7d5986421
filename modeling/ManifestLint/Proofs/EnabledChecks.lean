import ManifestLint.Proofs.LintOutcome

/-! # The checks a configuration enables

A configuration enables a name when one of its sources carries it and it is not excluded. The
sources are the default checks, unless turned off; every built-in check, if asked for; the
configuration's own checks; and the names it includes. An exclusion wins over every source.

The enabled names come out in strictly increasing order, and a strictly increasing list is fixed
by its members. So the enabled names, and the names among them that a registry lacks, are fixed by
the set of enabled names alone: they do not depend on the order of the includes, the excludes or
the configuration's checks, nor on repeats among them. Every missing name is reported at once.
-/

namespace ManifestLint

namespace Config

variable {c c' : Config} {r : Registry} {n : String}

/-- Whether a configuration enables a name: a source carries it and no exclusion names it. -/
def Enables (c : Config) (n : String) : Prop :=
  ((c.checks.doNotAutoAddDefaults = false ∧ n ∈ defaultChecks) ∨
    (c.checks.addAllBuiltIn = true ∧ n ∈ builtinChecks.map (·.name)) ∨
    n ∈ c.customChecks.map (·.name) ∨ n ∈ c.checks.includes) ∧ n ∉ c.checks.excludes

/-- The names the sources of a configuration carry, in source order, repeats kept. -/
def sources (c : Config) : List String :=
  (if c.checks.doNotAutoAddDefaults then [] else defaultChecks) ++
    (if c.checks.addAllBuiltIn then builtinChecks.map (·.name) else []) ++
    c.customChecks.map (·.name) ++ c.checks.includes

/-- The enabled names as the configuration lists them: its sources sorted without repeats, less
the excluded names. -/
def enabledList (c : Config) : List String :=
  (c.sources.foldl (fun acc n => insertSorted n acc) []).filter (!c.checks.excludes.contains ·)

theorem enabledChecks_eq (c : Config) (r : Registry) :
    c.enabledChecks r =
      if (c.enabledList.filter fun n => (r.load? n).isNone).isEmpty then .ok c.enabledList
      else .error (c.enabledList.filter fun n => (r.load? n).isNone) := rfl

theorem mem_foldl_insertSorted {a : String} (names l : List String) :
    a ∈ names.foldl (fun acc n => insertSorted n acc) l ↔ a ∈ names ∨ a ∈ l := by
  induction names generalizing l with
  | nil => simp
  | cons m names ih =>
    rw [List.foldl_cons, ih, mem_insertSorted, List.mem_cons]
    tauto

theorem mem_sources : n ∈ c.sources ↔
    (c.checks.doNotAutoAddDefaults = false ∧ n ∈ defaultChecks) ∨
      (c.checks.addAllBuiltIn = true ∧ n ∈ builtinChecks.map (·.name)) ∨
      n ∈ c.customChecks.map (·.name) ∨ n ∈ c.checks.includes := by
  unfold sources
  cases c.checks.doNotAutoAddDefaults <;> cases c.checks.addAllBuiltIn <;> simp

theorem mem_enabledList : n ∈ c.enabledList ↔ c.Enables n := by
  simp [enabledList, Enables, mem_foldl_insertSorted, mem_sources]

theorem pairwise_enabledList : c.enabledList.Pairwise (· < ·) :=
  (pairwise_foldl_insertSorted c.sources List.Pairwise.nil).filter _

theorem enabledList_congr (h : ∀ n, c.Enables n ↔ c'.Enables n) : c.enabledList = c'.enabledList :=
  pairwise_enabledList.eq_of_mem_iff pairwise_enabledList fun n => by
    rw [mem_enabledList, mem_enabledList, h]

/-- The enabled names resolve exactly when every one of them loads, and then come out in strictly
increasing order. -/
theorem enabledChecks_eq_ok_iff {names : List String} :
    c.enabledChecks r = .ok names ↔ (∀ n, c.Enables n → (r.load? n).isSome) ∧
      names.Pairwise (· < ·) ∧ ∀ n, n ∈ names ↔ c.Enables n := by
  rw [enabledChecks_eq]
  split
  · rename_i hnone
    have hall : ∀ n, c.Enables n → (r.load? n).isSome := fun n hn => by
      simpa [mem_enabledList.2 hn, Option.isSome_iff_ne_none] using
        List.filter_eq_nil_iff.1 (List.isEmpty_iff.1 hnone) n
    constructor
    · rintro ⟨⟩
      exact ⟨hall, pairwise_enabledList, fun n => mem_enabledList⟩
    · rintro ⟨-, hsorted, hmem⟩
      rw [pairwise_enabledList.eq_of_mem_iff hsorted fun n => by rw [mem_enabledList, hmem]]
  · rename_i hsome
    simp only [reduceCtorEq, false_iff]
    rintro ⟨hall, -⟩
    refine hsome (List.isEmpty_iff.2 (List.filter_eq_nil_iff.2 fun n hn => ?_))
    simpa [Option.isSome_iff_ne_none] using hall n (mem_enabledList.1 hn)

/-- The enabled names fail to resolve exactly when some enabled name does not load, and then the
names reported are every enabled name that does not load, in strictly increasing order. -/
theorem enabledChecks_eq_error_iff {missing : List String} :
    c.enabledChecks r = .error missing ↔ (∃ n, c.Enables n ∧ r.load? n = none) ∧
      missing.Pairwise (· < ·) ∧ ∀ n, n ∈ missing ↔ c.Enables n ∧ r.load? n = none := by
  rw [enabledChecks_eq]
  split
  · rename_i hnone
    simp only [reduceCtorEq, false_iff]
    rintro ⟨⟨n, hn, hload⟩, -⟩
    have := List.filter_eq_nil_iff.1 (List.isEmpty_iff.1 hnone) n (mem_enabledList.2 hn)
    simp [hload] at this
  · rename_i hsome
    have hmem : ∀ n, n ∈ c.enabledList.filter (fun n => (r.load? n).isNone) ↔
        c.Enables n ∧ r.load? n = none := fun n => by
      simp [mem_enabledList]
    constructor
    · rintro ⟨⟩
      obtain ⟨n, hn⟩ := List.exists_mem_of_ne_nil _ fun h => hsome (List.isEmpty_iff.2 h)
      exact ⟨⟨n, (hmem n).1 hn⟩, pairwise_enabledList.filter _, hmem⟩
    · rintro ⟨-, hsorted, hmissing⟩
      rw [(pairwise_enabledList.filter _).eq_of_mem_iff hsorted fun n => by rw [hmem, hmissing]]

end Config

/-- The checks a configuration enables against a registry. A name is enabled when a source carries
it (the default checks unless turned off, every built-in check if asked for, the configuration's
own checks, the includes) and no exclusion names it. The enabled names resolve exactly when every
one of them loads, and then come out strictly increasing; otherwise every enabled name that does
not load is reported, strictly increasing. The outcome does not depend on the order of, or repeats
in, the includes, the excludes and the configuration's checks. -/
theorem enabled_checks_resolve (c : Config) (r : Registry) :
    (∀ names, c.enabledChecks r = .ok names ↔ (∀ n, c.Enables n → (r.load? n).isSome) ∧
      names.Pairwise (· < ·) ∧ ∀ n, n ∈ names ↔ c.Enables n) ∧
    (∀ missing, c.enabledChecks r = .error missing ↔ (∃ n, c.Enables n ∧ r.load? n = none) ∧
      missing.Pairwise (· < ·) ∧ ∀ n, n ∈ missing ↔ c.Enables n ∧ r.load? n = none) ∧
    (∀ c' : Config, c'.checks.addAllBuiltIn = c.checks.addAllBuiltIn →
      c'.checks.doNotAutoAddDefaults = c.checks.doNotAutoAddDefaults →
      (∀ n, n ∈ c'.checks.includes ↔ n ∈ c.checks.includes) →
      (∀ n, n ∈ c'.checks.excludes ↔ n ∈ c.checks.excludes) →
      (∀ n, n ∈ c'.customChecks.map (·.name) ↔ n ∈ c.customChecks.map (·.name)) →
      c'.enabledChecks r = c.enabledChecks r) := by
  refine ⟨fun _ => Config.enabledChecks_eq_ok_iff, fun _ => Config.enabledChecks_eq_error_iff,
    fun c' hall hdefaults hinc hexc hcustom => ?_⟩
  have henables : ∀ n, c'.Enables n ↔ c.Enables n := fun n => by
    simp only [Config.Enables, hall, hdefaults, hinc n, hexc n, hcustom n]
  rw [Config.enabledChecks_eq, Config.enabledChecks_eq, Config.enabledList_congr henables]

end ManifestLint
