import ManifestLint.Proofs.RegistryIndex

/-! # Registering a batch

A batch is registered one specification after another, each meeting the registry that the
earlier ones left. What a specification meets depends on its own checks and on its name alone:
the name is taken when the registry had it before the batch, or when an earlier specification of
the batch carries it and passes its own checks. A specification that fails for another reason
leaves no trace. So the registry grows by the accepted checks in batch order, the errors are
those of the rejected specifications in batch order, and of the specifications of one name that
pass their own checks the first is registered and the others are refused as duplicates.
-/

namespace ManifestLint

/-- Whether a specification passes every stage of the pipeline when its name is free. -/
def CheckSpec.admissible (spec : CheckSpec) : Bool := (spec.prepare false).isOk

namespace Registry

/-- What a specification meets after the specifications `pre` of its batch: its own pipeline,
with its name taken when the registry has it or an earlier admissible specification carries
it. -/
def batchOutcome (r : Registry) (pre : List CheckSpec) (spec : CheckSpec) :
    Except CheckError RegisteredCheck :=
  spec.prepare (r.names.contains spec.name || pre.any fun t => t.name == spec.name && t.admissible)

/-- Each specification of a batch with what it meets there. -/
def batchOutcomes (r : Registry) (specs : List CheckSpec) :
    List (CheckSpec × Except CheckError RegisteredCheck) :=
  specs.mapIdx fun i spec => (spec, r.batchOutcome (specs.take i) spec)

/-- The errors among the outcomes of a batch, in batch order. -/
def rejectedErrors (outcomes : List (CheckSpec × Except CheckError RegisteredCheck)) :
    List CheckError :=
  outcomes.filterMap fun o => match o.2 with
    | .ok _ => none
    | .error e => some e

end Registry

variable {spec : CheckSpec} {taken : Bool} {c : RegisteredCheck}

theorem CheckSpec.admissible_iff :
    spec.admissible = true ↔ ∃ c, spec.prepare false = .ok c := by
  unfold CheckSpec.admissible
  cases spec.prepare false <;> simp [Except.isOk, Except.toBool]

theorem CheckSpec.admissible_of_prepare (h : spec.prepare taken = .ok c) :
    spec.admissible = true ∧ taken = false := by
  obtain ⟨-, rfl, -⟩ := CheckSpec.prepare_eq_ok.1 h
  exact ⟨CheckSpec.admissible_iff.2 ⟨c, h⟩, rfl⟩

theorem CheckSpec.prepare_true_of_admissible (h : spec.admissible = true) :
    spec.prepare true = .error (.duplicateCheck spec.name) := by
  obtain ⟨c, hc⟩ := CheckSpec.admissible_iff.1 h
  obtain ⟨hv, -, t, params, -, -, ht, hp, -⟩ := CheckSpec.prepare_eq_ok.1 hc
  simp [CheckSpec.prepare, bind, Except.bind, pure, Except.pure, throw, throwThe,
    MonadExceptOf.throw, hv, ht, hp]

namespace Registry

variable {r r' : Registry} {n : String} {s t : CheckSpec} {pre specs : List CheckSpec}
  {errs errs' : List CheckError}

/-! ## One step of a batch -/

theorem batchOutcome_nil : r.batchOutcome [] spec = spec.prepare (r.names.contains spec.name) := by
  simp [batchOutcome]

theorem batchOutcome_of_free (hfresh : spec.name ∉ r.names)
    (hfirst : ∀ t ∈ pre, t.name = spec.name → t.admissible = false) :
    r.batchOutcome pre spec = spec.prepare false := by
  have hfree : (r.names.contains spec.name ||
      pre.any fun t => t.name == spec.name && t.admissible) = false := by
    simpa using ⟨hfresh, fun t ht hn => hfirst t ht hn⟩
  rw [batchOutcome, hfree]

theorem batchOutcome_of_taken (hs : spec.admissible = true)
    (htaken : spec.name ∈ r.names ∨ ∃ t ∈ pre, t.name = spec.name ∧ t.admissible = true) :
    r.batchOutcome pre spec = .error (.duplicateCheck spec.name) := by
  have hbusy : (r.names.contains spec.name ||
      pre.any fun t => t.name == spec.name && t.admissible) = true := by
    simpa using htaken
  rw [batchOutcome, hbusy]
  exact CheckSpec.prepare_true_of_admissible hs

theorem getElem?_batchOutcomes (i : Nat) :
    (r.batchOutcomes specs)[i]? =
      specs[i]?.map fun spec => (spec, r.batchOutcome (specs.take i) spec) := by
  simp [batchOutcomes]

theorem mem_names_registerStep (h : r.Consistent) :
    n ∈ (registerStep (r, errs) s).1.names ↔
      n ∈ r.names ∨ s.name = n ∧ s.admissible = true := by
  cases hr : r.registerOne s with
  | ok r' =>
    obtain ⟨c, hc, -⟩ := registerOne_eq_ok.1 hr
    have hc' : s.prepare (r.index.contains s.name) = .ok c := hc
    have hs : s.admissible = true := (CheckSpec.admissible_of_prepare hc').1
    rw [registerStep_of_ok hr, names_of_registerOne hr]
    simp [hs, eq_comm]
  | error e =>
    rw [registerStep_of_error hr]
    refine ⟨.inl, ?_⟩
    rintro (hn | ⟨rfl, hs⟩)
    · exact hn
    · by_cases hn : s.name ∈ r.names
      · exact hn
      · obtain ⟨c, hc⟩ := CheckSpec.admissible_iff.1 hs
        have hp : r.prepare s = .ok c := by
          have hfree : r.names.contains s.name = false := by simpa using hn
          rw [h.prepare_eq, hfree]
          exact hc
        rw [registerOne_eq_error.1 hr] at hp
        cases hp

theorem batchOutcome_cons (h : r.Consistent) (errs : List CheckError) :
    r.batchOutcome (s :: pre) t = (registerStep (r, errs) s).1.batchOutcome pre t := by
  unfold batchOutcome
  congr 1
  rw [Bool.eq_iff_iff]
  simp only [Bool.or_eq_true, List.contains_iff_mem, mem_names_registerStep h, List.any_cons,
    Bool.and_eq_true, beq_iff_eq, or_assoc]

theorem batchOutcomes_cons (h : r.Consistent) (errs : List CheckError) :
    r.batchOutcomes (s :: specs) =
      (s, r.prepare s) :: (registerStep (r, errs) s).1.batchOutcomes specs := by
  simp only [batchOutcomes, List.mapIdx_cons, List.take_zero, List.take_succ_cons,
    batchOutcome_nil, h.prepare_eq, batchOutcome_cons h errs]

/-! ## A whole batch -/

theorem foldl_registerStep_fst (specs : List CheckSpec) :
    (specs.foldl registerStep (r, errs)).1 = (specs.foldl registerStep (r, errs')).1 := by
  induction specs generalizing r errs errs' with
  | nil => rfl
  | cons s specs ih =>
    simp only [List.foldl_cons]
    cases hr : r.registerOne s with
    | ok r' =>
      rw [registerStep_of_ok hr, registerStep_of_ok hr]
      exact ih
    | error e =>
      rw [registerStep_of_error hr, registerStep_of_error hr]
      exact ih

theorem register_cons_fst :
    (r.register (s :: specs)).1 = ((registerStep (r, []) s).1.register specs).1 := by
  rw [register_fst, register_fst, List.foldl_cons]
  exact foldl_registerStep_fst specs

theorem prepare_register (h : r.Consistent) (pre : List CheckSpec) (spec : CheckSpec) :
    (r.register pre).1.prepare spec = r.batchOutcome pre spec := by
  induction pre generalizing r with
  | nil => rw [register_fst, List.foldl_nil, h.prepare_eq, batchOutcome_nil]
  | cons s pre ih => rw [register_cons_fst, ih h.registerStep, ← batchOutcome_cons h []]

theorem foldl_registerStep_eq (h : r.Consistent) (specs : List CheckSpec) (errs : List CheckError) :
    (specs.foldl registerStep (r, errs)).1.checks =
        r.checks ++ (r.batchOutcomes specs).filterMap (·.2.toOption) ∧
      (specs.foldl registerStep (r, errs)).2 = errs ++ rejectedErrors (r.batchOutcomes specs) := by
  induction specs generalizing r errs with
  | nil => simp [batchOutcomes, rejectedErrors]
  | cons s specs ih =>
    rw [List.foldl_cons, batchOutcomes_cons h errs]
    cases hr : r.registerOne s with
    | ok r' =>
      obtain ⟨c, hc, rfl⟩ := registerOne_eq_ok.1 hr
      obtain ⟨ihc, ihe⟩ := ih (h.registerOne hr) errs
      rw [registerStep_of_ok hr]
      simp [ihc, ihe, hc, rejectedErrors, Except.toOption]
    | error e =>
      have hp := registerOne_eq_error.1 hr
      obtain ⟨ihc, ihe⟩ := ih h (errs ++ [e])
      rw [registerStep_of_error hr]
      simp [ihc, ihe, hp, rejectedErrors, Except.toOption]

theorem register_snd (specs : List CheckSpec) :
    (r.register specs).2 = (if (specs.foldl registerStep (r, [])).2.isEmpty then none
      else some ⟨(specs.foldl registerStep (r, [])).2⟩) := rfl

theorem rejectedErrors_eq_nil_iff
    {outcomes : List (CheckSpec × Except CheckError RegisteredCheck)} :
    rejectedErrors outcomes = [] ↔ ∀ o ∈ outcomes, o.2.isOk = true := by
  simp only [rejectedErrors, List.filterMap_eq_nil_iff]
  refine forall₂_congr fun o _ => ?_
  cases o.2 <;> simp [Except.isOk, Except.toBool]

theorem spec_of_mem_batchOutcomes {o : CheckSpec × Except CheckError RegisteredCheck}
    (ho : o ∈ r.batchOutcomes specs) (hc : o.2 = .ok c) : c.spec = o.1 := by
  obtain ⟨i, hi, rfl⟩ := List.mem_mapIdx.1 ho
  exact CheckSpec.prepare_spec hc

theorem map_name_accepted {outcomes : List (CheckSpec × Except CheckError RegisteredCheck)}
    (hspec : ∀ o ∈ outcomes, ∀ c, o.2 = .ok c → c.spec = o.1) :
    (outcomes.filterMap (·.2.toOption)).map (·.spec.name) =
      (outcomes.filter (·.2.isOk)).map (·.1.name) := by
  induction outcomes with
  | nil => rfl
  | cons o outcomes ih =>
    have ih' := ih fun o' ho' => hspec o' (List.mem_cons_of_mem o ho')
    obtain ⟨s, out⟩ := o
    cases out with
    | ok c =>
      have hc : c.spec = s := hspec (s, .ok c) List.mem_cons_self c rfl
      show (c :: outcomes.filterMap (·.2.toOption)).map (·.spec.name) =
        ((s, .ok c) :: outcomes.filter (·.2.isOk)).map (·.1.name)
      rw [List.map_cons, List.map_cons, ih', hc]
    | error e => exact ih'

/-- Registering a batch into a reachable registry. The i-th specification meets what the pipeline
gives in the registry the first i leave. The registry grows by the accepted checks in batch order,
its names by the names of the accepted specifications; the errors are those of the rejected
specifications in batch order, and there are none exactly when every specification is accepted. A
specification that passes its own checks, with a name that neither the registry nor an earlier
such specification carries, is registered and found under its name, whatever failed before it;
one whose name is so carried is refused as a duplicate. -/
theorem register_batch_outcomes (hr : Reachable r) (specs : List CheckSpec) :
    (∀ i, (r.batchOutcomes specs)[i]? =
      specs[i]?.map fun spec => (spec, (r.register (specs.take i)).1.prepare spec)) ∧
    (r.register specs).1.checks = r.checks ++ (r.batchOutcomes specs).filterMap (·.2.toOption) ∧
    (r.register specs).1.names =
      r.names ++ ((r.batchOutcomes specs).filter (·.2.isOk)).map (·.1.name) ∧
    (r.register specs).2 = (if rejectedErrors (r.batchOutcomes specs) = [] then none
      else some ⟨rejectedErrors (r.batchOutcomes specs)⟩) ∧
    ((r.register specs).2 = none ↔ ∀ o ∈ r.batchOutcomes specs, o.2.isOk = true) ∧
    (∀ i spec, specs[i]? = some spec → spec.admissible = true → spec.name ∉ r.names →
      (∀ t ∈ specs.take i, t.name = spec.name → t.admissible = false) →
      ∃ c, c.spec = spec ∧ (r.register specs).1.load? spec.name = some c) ∧
    (∀ i spec, specs[i]? = some spec → spec.admissible = true →
      (spec.name ∈ r.names ∨
        ∃ t ∈ specs.take i, t.name = spec.name ∧ t.admissible = true) →
      (r.batchOutcomes specs)[i]? = some (spec, .error (.duplicateCheck spec.name))) := by
  have h := hr.consistent
  obtain ⟨hchecks, herrs⟩ := foldl_registerStep_eq h specs []
  rw [← register_fst] at hchecks
  have hsnd : (r.register specs).2 = (if rejectedErrors (r.batchOutcomes specs) = [] then none
      else some ⟨rejectedErrors (r.batchOutcomes specs)⟩) := by
    rw [register_snd, herrs, List.nil_append]
    exact ite_cond_congr (by simp)
  refine ⟨fun i => ?_, hchecks, ?_, hsnd, ?_, ?_, ?_⟩
  · simp [getElem?_batchOutcomes, prepare_register h]
  · rw [names, hchecks, List.map_append,
      map_name_accepted fun o ho c hc => spec_of_mem_batchOutcomes ho hc]
    rfl
  · rw [hsnd, ← rejectedErrors_eq_nil_iff]
    split <;> simp_all
  · intro i spec hi hs hfresh hfirst
    obtain ⟨c, hc⟩ := CheckSpec.admissible_iff.1 hs
    have hmem : (spec, Except.ok c) ∈ r.batchOutcomes specs := by
      refine List.mem_iff_getElem?.2 ⟨i, ?_⟩
      rw [getElem?_batchOutcomes, hi, Option.map_some, batchOutcome_of_free hfresh hfirst, hc]
    have hin : c ∈ (r.register specs).1.checks := by
      rw [hchecks]
      exact List.mem_append_right _ (List.mem_filterMap.2 ⟨_, hmem, rfl⟩)
    have hcs := CheckSpec.prepare_spec hc
    exact ⟨c, hcs, hcs ▸ (h.register specs).load?_of_mem hin⟩
  · intro i spec hi hs htaken
    rw [getElem?_batchOutcomes, hi, Option.map_some, batchOutcome_of_taken hs htaken]

/-- The built-in registry is reachable, so registering the built-in checks into it a second time
ends without errors exactly when every one of them is accepted. -/
theorem builtin_register_batch_outcomes :
    Reachable builtin ∧ ((builtin.register builtinChecks).2 = none ↔
      ∀ o ∈ builtin.batchOutcomes builtinChecks, o.2.isOk = true) :=
  have hr : Reachable builtin := .register builtinChecks .empty
  ⟨hr, (register_batch_outcomes hr builtinChecks).2.2.2.2.1⟩

end Registry

end ManifestLint
