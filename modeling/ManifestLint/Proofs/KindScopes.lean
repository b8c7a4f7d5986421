import Mathlib.Data.String.Basic
import Mathlib.Data.List.Nodup
import ManifestLint.Scope

/-! # Scopes of the kind catalogue

The kind catalogue has `Any`, `DeploymentLike`, `JobLike` and one name per kind, and lists them
in strictly increasing order. A text names at most one entry, so looking a name up and asking what
it accepts is one function, `KindName.labelAccepts`.

Resolving a list of names fails with the first name the catalogue lacks. Otherwise the scope keeps
the names as written and accepts an identity exactly when one of its names does (`resolve_eq`,
`Scope.accepts_of_resolve`). The groups accept what their members accept together, and no entry
looks at the version, so scopes resolve and accept piecewise over concatenation.
-/

namespace ManifestLint

namespace KindName

theorem mem_all (k : KindName) : k ∈ all := by
  cases k with
  | kind k => simp [all, Kind.mem_all]
  | _ => simp [all]

theorem nodup_all : all.Nodup := by decide

@[simp] theorem ofLabel?_label (k : KindName) : ofLabel? k.label = some k := by
  cases k with
  | kind k => cases k <;> rfl
  | _ => rfl

theorem label_injective : Function.Injective label := fun a b h =>
  Option.some.inj ((ofLabel?_label a).symm.trans (h ▸ ofLabel?_label b))

theorem label_of_ofLabel? {n : String} {k : KindName} (h : ofLabel? n = some k) : k.label = n := by
  simpa using List.find?_some h

theorem ofLabel?_eq_some_iff {n : String} {k : KindName} : ofLabel? n = some k ↔ k.label = n :=
  ⟨label_of_ofLabel?, fun h => h ▸ ofLabel?_label k⟩

/-! ## The names of the catalogue -/

theorem labels_perm : labels.Perm (all.map label) := List.mergeSort_perm _ _

theorem nodup_labels : labels.Nodup :=
  labels_perm.nodup_iff.2 (List.Nodup.map label_injective nodup_all)

theorem labels_sorted : labels.Pairwise (· < ·) := by
  have htrans : ∀ a b c : String,
      decide (a ≤ b) = true → decide (b ≤ c) = true → decide (a ≤ c) = true := by
    simp only [decide_eq_true_eq]
    exact fun a b c => le_trans
  have htotal : ∀ a b : String, (decide (a ≤ b) || decide (b ≤ a)) = true := by
    simpa using le_total
  have hle : labels.Pairwise (· ≤ ·) := by
    simpa only [labels, decide_eq_true_eq] using List.pairwise_mergeSort htrans htotal (all.map label)
  exact (hle.and nodup_labels).imp fun ⟨hle, hne⟩ => lt_of_le_of_ne hle hne

theorem length_labels : labels.length = 23 := by
  rw [labels_perm.length_eq]
  rfl

theorem mem_labels {n : String} : n ∈ labels ↔ ∃ k : KindName, k.label = n := by
  simp [labels_perm.mem_iff, mem_all]

theorem ofLabel?_eq_none_iff {n : String} : ofLabel? n = none ↔ n ∉ labels := by
  rw [mem_labels, ← Option.not_isSome_iff_eq_none, Option.isSome_iff_exists]
  simp [ofLabel?_eq_some_iff]

theorem isSome_ofLabel? {n : String} : (ofLabel? n).isSome ↔ n ∈ labels := by
  rw [← not_iff_not, Option.not_isSome_iff_eq_none, ofLabel?_eq_none_iff]

theorem mem_labels_iff {n : String} :
    n ∈ labels ↔ n = "Any" ∨ n = "DeploymentLike" ∨ n = "JobLike" ∨ ∃ k : Kind, k.name = n := by
  rw [mem_labels]
  constructor
  · rintro ⟨k, rfl⟩
    cases k with
    | any => exact .inl rfl
    | deploymentLike => exact .inr (.inl rfl)
    | jobLike => exact .inr (.inr (.inl rfl))
    | kind k => exact .inr (.inr (.inr ⟨k, rfl⟩))
  · rintro (rfl | rfl | rfl | ⟨k, rfl⟩)
    exacts [⟨any, rfl⟩, ⟨deploymentLike, rfl⟩, ⟨jobLike, rfl⟩, ⟨kind k, rfl⟩]

/-! ## What the entries accept -/

/-- What the catalogue entry of a name accepts; a name the catalogue lacks accepts nothing. -/
def labelAccepts (n : String) (id : Identity) : Bool :=
  (ofLabel? n).any (·.accepts id)

variable {id : Identity}

theorem labelAccepts_label (k : KindName) : labelAccepts k.label id = k.accepts id := by
  simp [labelAccepts]

theorem labelAccepts_name (k : Kind) : labelAccepts k.name id = isKind k id :=
  labelAccepts_label (kind k)

theorem isKind_iff (k : Kind) : isKind k id = true ↔ id.kind = k.name ∧ id.group = k.group := by
  simp [isKind]

theorem labelAccepts_deploymentLike :
    labelAccepts "DeploymentLike" id = (Kind.workloads.map Kind.name).any (labelAccepts · id) := by
  rw [List.any_map]
  exact (labelAccepts_label deploymentLike).trans (by simp [accepts, Function.comp_def, labelAccepts_name])

theorem labelAccepts_jobLike :
    labelAccepts "JobLike" id = [Kind.job.name, Kind.cronJob.name].any (labelAccepts · id) := by
  simp only [List.any_cons, List.any_nil, Bool.or_false, labelAccepts_name]
  exact labelAccepts_label jobLike

@[simp] theorem accepts_version (k : KindName) (v : String) :
    k.accepts { id with version := v } = k.accepts id := by
  cases k <;> simp [accepts, isKind]

end KindName

/-! ## Resolving scopes -/

namespace Scope

variable {names : List String}

theorem resolve_cons (n : String) (names : List String) :
    resolve (n :: names) = match KindName.ofLabel? n with
      | some k => do let s ← resolve names; pure ⟨n :: names, k :: s.kinds⟩
      | none => .error (.unknownKind n) := by
  cases hn : KindName.ofLabel? n with
  | none => simp [resolve, hn, bind, Except.bind]
  | some k =>
    simp only [resolve, hn, List.mapM_cons, bind_assoc, pure_bind]
    rfl

/-- Resolving names fails at the first one the catalogue lacks; otherwise the scope keeps the
names as written and the entries they stand for. -/
theorem resolve_eq (names : List String) :
    resolve names = match names.find? (fun n => (KindName.ofLabel? n).isNone) with
      | some n => .error (.unknownKind n)
      | none => .ok ⟨names, names.filterMap KindName.ofLabel?⟩ := by
  induction names with
  | nil => rfl
  | cons n names ih =>
    rw [resolve_cons]
    cases hn : KindName.ofLabel? n with
    | none => simp [hn]
    | some k =>
      simp only [hn, ih, List.find?_cons, Option.isNone_some]
      cases names.find? (fun n => (KindName.ofLabel? n).isNone) <;>
        simp [bind, Except.bind, pure, Except.pure, hn]

theorem find?_unknown_eq_some_iff {n : String} :
    names.find? (fun n => (KindName.ofLabel? n).isNone) = some n ↔
      ∃ pre post, names = pre ++ n :: post ∧ (∀ m ∈ pre, m ∈ KindName.labels) ∧
        n ∉ KindName.labels := by
  simp only [List.find?_eq_some_iff_append, Option.isNone_iff_eq_none, KindName.ofLabel?_eq_none_iff,
    Bool.not_eq_true', Option.isNone_eq_false_iff, KindName.isSome_ofLabel?]
  constructor
  · rintro ⟨hn, pre, post, rfl, hpre⟩
    exact ⟨pre, post, rfl, hpre, hn⟩
  · rintro ⟨pre, post, rfl, hpre, hn⟩
    exact ⟨hn, pre, post, rfl, hpre⟩

theorem resolve_eq_ok_iff {s : Scope} :
    resolve names = .ok s ↔
      (∀ n ∈ names, n ∈ KindName.labels) ∧ s = ⟨names, names.filterMap KindName.ofLabel?⟩ := by
  rw [resolve_eq]
  cases h : names.find? (fun n => (KindName.ofLabel? n).isNone) with
  | some n =>
    obtain ⟨pre, post, rfl, -, hn⟩ := find?_unknown_eq_some_iff.1 h
    simp only [reduceCtorEq, false_iff, not_and]
    exact fun hall => absurd (hall n (by simp)) hn
  | none =>
    have hall : ∀ n ∈ names, n ∈ KindName.labels := fun n hn => by
      simpa [KindName.ofLabel?_eq_none_iff] using List.find?_eq_none.1 h n hn
    exact ⟨fun hs => ⟨hall, (Except.ok.inj hs).symm⟩, fun ⟨_, hs⟩ => hs ▸ rfl⟩

theorem resolve_eq_error_iff {e : ScopeError} :
    resolve names = .error e ↔
      ∃ pre n post, names = pre ++ n :: post ∧ (∀ m ∈ pre, m ∈ KindName.labels) ∧
        n ∉ KindName.labels ∧ e = .unknownKind n := by
  rw [resolve_eq]
  cases h : names.find? (fun n => (KindName.ofLabel? n).isNone) with
  | some n =>
    constructor
    · rintro ⟨⟩
      obtain ⟨pre, post, hnames, hpre, hn⟩ := find?_unknown_eq_some_iff.1 h
      exact ⟨pre, n, post, hnames, hpre, hn, rfl⟩
    · rintro ⟨pre, n', post, hnames, hpre, hn', rfl⟩
      rw [find?_unknown_eq_some_iff.2 ⟨pre, post, hnames, hpre, hn'⟩] at h
      cases h
      rfl
  | none =>
    simp only [reduceCtorEq, false_iff]
    rintro ⟨pre, n, post, hnames, hpre, hn, -⟩
    rw [find?_unknown_eq_some_iff.2 ⟨pre, post, hnames, hpre, hn⟩] at h
    cases h

theorem exists_resolve_eq_ok_iff : (∃ s, resolve names = .ok s) ↔ ∀ n ∈ names, n ∈ KindName.labels :=
  ⟨fun ⟨_, hs⟩ => (resolve_eq_ok_iff.1 hs).1, fun hall => ⟨_, resolve_eq_ok_iff.2 ⟨hall, rfl⟩⟩⟩

theorem accepts_of_resolve {s : Scope} (h : resolve names = .ok s) (id : Identity) :
    s.accepts id = names.any (KindName.labelAccepts · id) := by
  obtain ⟨-, rfl⟩ := resolve_eq_ok_iff.1 h
  simp only [accepts, KindName.labelAccepts, List.any_filterMap]
  congr 1

@[simp] theorem accepts_version (s : Scope) (id : Identity) (v : String) :
    s.accepts { id with version := v } = s.accepts id := by
  simp [accepts]

end Scope

/-- The kind catalogue and the scopes it resolves. The catalogue has 23 names, `Any`,
`DeploymentLike`, `JobLike` and the name of every kind, in strictly increasing order. Resolving
names fails with the first one it lacks; otherwise the scope keeps the names as written and
accepts an identity exactly when one of its names does. `Any` accepts everything, a kind accepts
the identities of its name and group, and `DeploymentLike` and `JobLike` accept what the names of
their members accept together. Hence a concatenation resolves when its parts do and accepts what
either accepts, the empty scope accepts nothing, and no scope looks at the version. -/
theorem resolve_kind_scopes :
    (∀ n, n ∈ KindName.labels ↔
      n = "Any" ∨ n = "DeploymentLike" ∨ n = "JobLike" ∨ ∃ k : Kind, k.name = n) ∧
    KindName.labels.length = 23 ∧ KindName.labels.Pairwise (· < ·) ∧
    (∀ names pre n post, names = pre ++ n :: post → (∀ m ∈ pre, m ∈ KindName.labels) →
      n ∉ KindName.labels → Scope.resolve names = .error (.unknownKind n)) ∧
    (∀ names, (∀ n ∈ names, n ∈ KindName.labels) → ∃ s, Scope.resolve names = .ok s ∧
      s.names = names ∧ ∀ id, s.accepts id = names.any (KindName.labelAccepts · id)) ∧
    (∀ id, KindName.labelAccepts "Any" id = true) ∧
    (∀ (k : Kind) id,
      KindName.labelAccepts k.name id = true ↔ id.kind = k.name ∧ id.group = k.group) ∧
    (∀ id, KindName.labelAccepts "DeploymentLike" id =
      ["Deployment", "DaemonSet", "DeploymentConfig", "StatefulSet", "ReplicaSet", "Pod",
        "ReplicationController", "Job", "CronJob"].any (KindName.labelAccepts · id)) ∧
    (∀ id, KindName.labelAccepts "JobLike" id = ["Job", "CronJob"].any (KindName.labelAccepts · id)) ∧
    (∀ N₁ N₂, (∃ s, Scope.resolve (N₁ ++ N₂) = .ok s) ↔
      (∃ s₁, Scope.resolve N₁ = .ok s₁) ∧ ∃ s₂, Scope.resolve N₂ = .ok s₂) ∧
    (∀ N₁ N₂ s s₁ s₂, Scope.resolve (N₁ ++ N₂) = .ok s → Scope.resolve N₁ = .ok s₁ →
      Scope.resolve N₂ = .ok s₂ → ∀ id, s.accepts id = (s₁.accepts id || s₂.accepts id)) ∧
    (∃ s, Scope.resolve [] = .ok s ∧ ∀ id, s.accepts id = false) ∧
    (∀ (s : Scope) id v, s.accepts { id with version := v } = s.accepts id) := by
  refine ⟨fun _ => KindName.mem_labels_iff, KindName.length_labels, KindName.labels_sorted,
    fun names pre n post hnames hpre hn => Scope.resolve_eq_error_iff.2 ⟨pre, n, post, hnames,
      hpre, hn, rfl⟩,
    fun names hall => ⟨_, Scope.resolve_eq_ok_iff.2 ⟨hall, rfl⟩, rfl,
      Scope.accepts_of_resolve (Scope.resolve_eq_ok_iff.2 ⟨hall, rfl⟩)⟩,
    fun _ => KindName.labelAccepts_label .any,
    fun k _ => (KindName.labelAccepts_name k).symm ▸ KindName.isKind_iff k,
    fun _ => KindName.labelAccepts_deploymentLike, fun _ => KindName.labelAccepts_jobLike,
    fun N₁ N₂ => ?_, fun N₁ N₂ s s₁ s₂ hs hs₁ hs₂ id => ?_, ⟨_, rfl, fun _ => rfl⟩,
    fun s id v => Scope.accepts_version s id v⟩
  · simp only [Scope.exists_resolve_eq_ok_iff, List.forall_mem_append]
  · rw [Scope.accepts_of_resolve hs, Scope.accepts_of_resolve hs₁, Scope.accepts_of_resolve hs₂,
      List.any_append]

end ManifestLint
