import ManifestLint.Checks.Registry

/-! # The registry index

A registry keeps its checks in a list and, beside it, an index from names to positions; a
registration updates the two one after the other. Every state reached from the empty registry by
registering specifications one at a time or in batches keeps them in step: the names are
distinct, the index sends exactly the registered names to the positions of their checks, and
looking a name up finds the check of that name. Registering one specification either appends one
check, of that specification, or fails.
-/

namespace ManifestLint

variable {spec : CheckSpec} {taken : Bool} {c : RegisteredCheck}

/-- The pipeline passes exactly when the name is well formed and free, the template is known,
its parameters read, the scope resolves and the template instantiates; the check then carries the
specification with the rule and the scope. -/
theorem CheckSpec.prepare_eq_ok :
    spec.prepare taken = .ok c ↔ isValidCheckName spec.name = true ∧ taken = false ∧
      ∃ t params scope rule, Template.ofKey? spec.template = some t ∧
        t.readParams spec.params = .ok params ∧
        Scope.resolve (spec.scope.getD t.objectKinds) = .ok scope ∧
        t.instantiate params = .ok rule ∧ c = ⟨spec, rule, scope⟩ := by
  simp only [CheckSpec.prepare, bind, Except.bind, pure, Except.pure, throw, throwThe,
    MonadExceptOf.throw]
  cases hv : isValidCheckName spec.name with
  | false => simp
  | true =>
    cases ht : Template.ofKey? spec.template with
    | none => simp
    | some t =>
      cases hp : t.readParams spec.params with
      | error e => simp [hp]
      | ok params =>
        cases taken with
        | true => simp [hp]
        | false =>
          cases hs : Scope.resolve (spec.scope.getD t.objectKinds) with
          | error e => simp [hp, hs]
          | ok scope =>
            cases hr : t.instantiate params with
            | error e => simp [hp, hs, hr]
            | ok rule => simp [hp, hs, hr, eq_comm]

theorem CheckSpec.prepare_spec (h : spec.prepare taken = .ok c) : c.spec = spec := by
  obtain ⟨-, -, t, params, scope, rule, -, -, -, -, rfl⟩ := CheckSpec.prepare_eq_ok.1 h
  rfl

namespace Registry

variable {r r' : Registry} {n : String} {i : Nat}

/-- The index and the checks agree: the names are distinct, and the index sends each registered
name to the position of its check and holds no other name. -/
structure Consistent (r : Registry) : Prop where
  nodup : r.names.Nodup
  index_eq_some : ∀ (n : String) (i : Nat), r.index[n]? = some i ↔ r.names[i]? = some n

/-- The states a registry reaches from empty by registering one specification at a time, or a
batch; a registration that fails leaves the state it started from. -/
inductive Reachable : Registry → Prop
  | empty : Reachable {}
  | registerOne {r r' : Registry} {spec : CheckSpec} :
      Reachable r → r.registerOne spec = .ok r' → Reachable r'
  | register {r : Registry} (specs : List CheckSpec) :
      Reachable r → Reachable (r.register specs).1

@[simp] theorem length_names : r.names.length = r.checks.length := by
  simp [names]

theorem getElem?_names : r.names[i]? = r.checks[i]?.map (·.spec.name) := by
  simp [names]

theorem registerOne_eq_ok :
    r.registerOne spec = .ok r' ↔ ∃ c, r.prepare spec = .ok c ∧
      r' = { checks := r.checks ++ [c], index := r.index.insert spec.name r.checks.length } := by
  simp only [registerOne, bind, Except.bind, pure, Except.pure]
  constructor
  · intro h
    split at h
    · contradiction
    · rename_i c hc
      simp only [Except.ok.injEq] at h
      exact ⟨c, hc, by rw [← h, CheckSpec.prepare_spec hc]⟩
  · rintro ⟨c, hc, rfl⟩
    simp only [hc, CheckSpec.prepare_spec hc]

theorem registerOne_eq_error {e : CheckError} :
    r.registerOne spec = .error e ↔ r.prepare spec = .error e := by
  simp only [registerOne, bind, Except.bind, pure, Except.pure]
  split <;> simp_all

/-- A registration that succeeds appends one check, of the given specification, and the name of
the specification then finds it. -/
theorem registerOne_appends (hr : r.registerOne spec = .ok r') :
    ∃ c, c.spec = spec ∧ r'.checks = r.checks ++ [c] ∧ r'.load? spec.name = some c := by
  obtain ⟨c, hc, rfl⟩ := registerOne_eq_ok.1 hr
  refine ⟨c, CheckSpec.prepare_spec hc, rfl, ?_⟩
  simp [load?]

theorem names_of_registerOne (hr : r.registerOne spec = .ok r') :
    r'.names = r.names ++ [spec.name] := by
  obtain ⟨c, hc, hchecks, -⟩ := registerOne_appends hr
  simp [names, hchecks, hc]

theorem contains_eq_false_of_prepare (h : r.prepare spec = .ok c) :
    r.index.contains spec.name = false :=
  (CheckSpec.prepare_eq_ok.1 h).2.1

theorem consistent_empty : Consistent {} := by
  refine ⟨by simp [names], fun n i => ?_⟩
  simp [names]

theorem load?_eq_some_iff :
    r.load? n = some c ↔ ∃ i, r.index[n]? = some i ∧ r.checks[i]? = some c := by
  simp [load?, Option.bind_eq_some_iff]

theorem register_fst (specs : List CheckSpec) :
    (r.register specs).1 = (specs.foldl registerStep (r, [])).1 := rfl

theorem registerStep_of_ok {errs : List CheckError} (h : r.registerOne spec = .ok r') :
    registerStep (r, errs) spec = (r', errs) := by
  simp [registerStep, h]

theorem registerStep_of_error {errs : List CheckError} {e : CheckError}
    (h : r.registerOne spec = .error e) : registerStep (r, errs) spec = (r, errs ++ [e]) := by
  simp [registerStep, h]

theorem getElem?_concat_eq_some {α : Type} {l : List α} {a b : α} {i : Nat} :
    (l ++ [a])[i]? = some b ↔ l[i]? = some b ∨ i = l.length ∧ a = b := by
  rw [List.getElem?_append, List.getElem?_singleton]
  by_cases hi : i < l.length
  · have hne : i ≠ l.length := by omega
    simp [hi, hne]
  · simp [hi]
    omega

theorem index_insert_fresh {m : Std.HashMap String Nat} {l : List String} {a : String}
    (hm : ∀ (n : String) (i : Nat), m[n]? = some i ↔ l[i]? = some n) (ha : a ∉ l)
    (n : String) (i : Nat) : (m.insert a l.length)[n]? = some i ↔ (l ++ [a])[i]? = some n := by
  have hfresh : m[a]? = none := by
    rw [Option.eq_none_iff_forall_ne_some]
    intro j hj
    exact ha (List.mem_iff_getElem?.2 ⟨j, (hm a j).1 hj⟩)
  rw [Std.HashMap.getElem?_insert, getElem?_concat_eq_some, ← hm]
  by_cases han : a = n
  · subst han
    simp [hfresh, eq_comm]
  · simp [han]

namespace Consistent

variable (h : r.Consistent)
include h

theorem mem_names_iff : n ∈ r.names ↔ ∃ i, r.index[n]? = some i := by
  simp only [h.index_eq_some, List.mem_iff_getElem?]

theorem contains_iff : r.index.contains n = true ↔ n ∈ r.names := by
  rw [h.mem_names_iff, Std.HashMap.contains_eq_isSome_getElem?, Option.isSome_iff_exists]

theorem lt_length_of_index (hi : r.index[n]? = some i) : i < r.checks.length := by
  have hn := (h.index_eq_some n i).1 hi
  simpa using (List.getElem?_eq_some_iff.1 hn).1

theorem name_of_load?_eq_some (hc : r.load? n = some c) : c.spec.name = n := by
  obtain ⟨i, hi, hci⟩ := load?_eq_some_iff.1 hc
  have hn := (h.index_eq_some n i).1 hi
  rw [getElem?_names, hci, Option.map_some, Option.some.injEq] at hn
  exact hn

theorem isSome_load?_iff : (r.load? n).isSome ↔ n ∈ r.names := by
  rw [Option.isSome_iff_exists, h.mem_names_iff]
  constructor
  · rintro ⟨c, hc⟩
    obtain ⟨i, hi, -⟩ := load?_eq_some_iff.1 hc
    exact ⟨i, hi⟩
  · rintro ⟨i, hi⟩
    have hn := (h.index_eq_some n i).1 hi
    rw [getElem?_names, Option.map_eq_some_iff] at hn
    obtain ⟨c, hc, -⟩ := hn
    exact ⟨c, load?_eq_some_iff.2 ⟨i, hi, hc⟩⟩

theorem prepare_eq : r.prepare spec = spec.prepare (r.names.contains spec.name) := by
  have hc : r.index.contains spec.name = r.names.contains spec.name := by
    rw [Bool.eq_iff_iff, h.contains_iff, List.contains_iff_mem]
  rw [prepare, hc]

theorem load?_of_mem (hc : c ∈ r.checks) : r.load? c.spec.name = some c := by
  obtain ⟨i, hi⟩ := List.mem_iff_getElem?.1 hc
  have hn : r.names[i]? = some c.spec.name := by rw [getElem?_names, hi, Option.map_some]
  exact load?_eq_some_iff.2 ⟨i, (h.index_eq_some _ i).2 hn, hi⟩

theorem not_mem_names_of_prepare (hc : r.prepare spec = .ok c) : spec.name ∉ r.names := by
  rw [← h.contains_iff, contains_eq_false_of_prepare hc]
  simp

theorem registerOne (hr : r.registerOne spec = .ok r') : r'.Consistent := by
  obtain ⟨c, hc, rfl⟩ := registerOne_eq_ok.1 hr
  have hfresh := h.not_mem_names_of_prepare hc
  have hnames : names ⟨r.checks ++ [c], r.index.insert spec.name r.checks.length⟩ =
      r.names ++ [spec.name] := by
    simp [names, CheckSpec.prepare_spec hc]
  refine ⟨?_, fun n i => ?_⟩
  · rw [hnames]
    refine List.nodup_append.2 ⟨h.nodup, by simp, ?_⟩
    intro m hm b hb
    rw [List.mem_singleton.1 hb]
    rintro rfl
    exact hfresh hm
  · rw [hnames, ← length_names]
    exact index_insert_fresh h.index_eq_some hfresh n i

theorem load?_registerOne_of_ne (hr : r.registerOne spec = .ok r') (hn : n ≠ spec.name) :
    r'.load? n = r.load? n := by
  obtain ⟨c, hc, rfl⟩ := registerOne_eq_ok.1 hr
  have hne : (spec.name == n) = false := by simpa using Ne.symm hn
  simp only [load?, Std.HashMap.getElem?_insert, hne, Bool.false_eq_true, if_false]
  cases hi : r.index[n]? with
  | none => rfl
  | some i => simp [List.getElem?_append_left (h.lt_length_of_index hi)]

theorem registerStep {errs : List CheckError} :
    (Registry.registerStep (r, errs) spec).1.Consistent := by
  cases hr : r.registerOne spec with
  | ok r' =>
    rw [registerStep_of_ok hr]
    exact h.registerOne hr
  | error e =>
    rw [registerStep_of_error hr]
    exact h

theorem foldl_registerStep {errs : List CheckError} (specs : List CheckSpec) :
    (specs.foldl Registry.registerStep (r, errs)).1.Consistent := by
  induction specs generalizing r errs with
  | nil => exact h
  | cons s specs ih => exact ih h.registerStep

theorem register (specs : List CheckSpec) : (r.register specs).1.Consistent := by
  rw [register_fst]
  exact h.foldl_registerStep specs

end Consistent

/-- Every reachable registry is consistent. -/
theorem Reachable.consistent (hr : Reachable r) : r.Consistent := by
  induction hr with
  | empty => exact consistent_empty
  | registerOne _ hstep ih => exact ih.registerOne hstep
  | register specs _ ih => exact ih.register specs

/-- In every registry reached by registrations, one at a time or in batches, the names are
distinct; the index sends exactly the registered names to the positions of the checks of those
names; a name is found exactly when it is registered, and the check found carries that name. A
further registration either appends one check, of the given specification, and changes the
lookup of no other name, or fails with an error: the registry is then kept as it was, and a batch
goes on from it with the error recorded. -/
theorem reachable_registry_invariant (hr : Reachable r) :
    r.names.Nodup ∧
    (∀ (n : String) (i : Nat), r.index[n]? = some i ↔ r.names[i]? = some n) ∧
    (∀ n, (r.load? n).isSome ↔ n ∈ r.names) ∧
    (∀ n c, r.load? n = some c → c.spec.name = n) ∧
    r.checks.length = r.names.length ∧
    ∀ spec, (∃ r' c, r.registerOne spec = .ok r' ∧ c.spec = spec ∧
        r'.checks = r.checks ++ [c] ∧
        r'.names = r.names ++ [spec.name] ∧ r'.load? spec.name = some c ∧
        ∀ n, n ≠ spec.name → r'.load? n = r.load? n) ∨
      ∃ e, r.registerOne spec = .error e ∧
        ∀ errors, registerStep (r, errors) spec = (r, errors ++ [e]) := by
  have h := hr.consistent
  refine ⟨h.nodup, h.index_eq_some, fun n => h.isSome_load?_iff,
    fun n c => h.name_of_load?_eq_some,
    length_names.symm, fun spec => ?_⟩
  cases hone : r.registerOne spec with
  | ok r' =>
    obtain ⟨c, hc, hchecks, hload⟩ := registerOne_appends hone
    exact .inl ⟨r', c, rfl, hc, hchecks, names_of_registerOne hone, hload,
      fun n hn => h.load?_registerOne_of_ne hone hn⟩
  | error e => exact .inr ⟨e, rfl, fun errors => registerStep_of_error hone⟩

/-- The built-in registry is reachable, so its names are distinct and each of them is found. -/
theorem builtin_registry_invariant :
    Reachable builtin ∧ builtin.names.Nodup ∧
      ∀ n, (builtin.load? n).isSome ↔ n ∈ builtin.names :=
  have hr : Reachable builtin := .register builtinChecks .empty
  ⟨hr, (reachable_registry_invariant hr).1, (reachable_registry_invariant hr).2.2.1⟩

end Registry

end ManifestLint
