import ManifestLint.Proofs.KindScopes
import ManifestLint.Proofs.ManifestReading
import ManifestLint.Proofs.BatchRegistration

/-! # Typed readings and kind scopes

An object's contents are read by its kind name alone, whatever its group: a service, a workload for
the nine workload kinds, metadata alone for another known kind. Scopes instead look at the kind
name and the group. The two agree on every object read from a manifest: its identity carries the
manifest's kind name, so when the catalogue entry of a kind accepts the object, the object was read
as that kind, and when `DeploymentLike` accepts it, it was read as a workload.

So the checks of a registry meet the contents they expect: a dangling-service check under its
template's scope looks only at services, and a check scoped to `DeploymentLike` only at workloads.
-/

namespace ManifestLint

open Yaml

namespace Kind

theorem name_of_ofName? {s : String} {k : Kind} (h : ofName? s = some k) : k.name = s := by
  simpa using List.find?_some h

theorem ofName?_eq_some_iff {s : String} {k : Kind} : ofName? s = some k ↔ k.name = s :=
  ⟨name_of_ofName?, fun h => h ▸ ofName?_name k⟩

theorem service_not_mem_workloads : service ∉ workloads := by decide

end Kind

/-- The contents of an object read as a given kind: a service for services, a workload of that kind
for the workload kinds, and metadata alone for every other kind. -/
inductive Body.ReadAs : Kind → Body → Prop
  | service (s : Service) : ReadAs .service (.service s)
  | workload {k : Kind} (w : Workload) : k ∈ Kind.workloads → ReadAs k (.workload k w)
  | other {k : Kind} (m : Metadata) : k ≠ .service → k ∉ Kind.workloads → ReadAs k (.other k m)

namespace Body.ReadAs

variable {b : Body} {k : Kind}

theorem kind? (h : b.ReadAs k) : b.kind? = some k := by
  cases h <;> rfl

theorem eq_service (h : b.ReadAs .service) : ∃ s, b = .service s := by
  cases h with
  | service s => exact ⟨s, rfl⟩
  | workload w hk => exact absurd hk Kind.service_not_mem_workloads
  | other m hk => exact absurd rfl hk

theorem eq_workload (h : b.ReadAs k) (hk : k ∈ Kind.workloads) : ∃ w, b = .workload k w := by
  cases h with
  | service s => exact absurd hk Kind.service_not_mem_workloads
  | workload w => exact ⟨w, rfl⟩
  | other m _ hk' => exact absurd hk hk'

end Body.ReadAs

namespace ManifestValue

variable {kind : String} {k : Kind}

theorem body_readAs (h : Kind.ofName? kind = some k) (v : Value) : (body kind v).ReadAs k := by
  unfold body
  rw [h]
  match k with
  | .pod => exact .workload _ (by decide)
  | .cronJob => exact .workload _ (by decide)
  | .service => exact .service _
  | .deployment | .statefulSet | .daemonSet | .replicaSet | .replicationController | .job
    | .deploymentConfig => exact .workload _ (by decide)
  | .ingress | .networkPolicy | .role | .clusterRole | .roleBinding | .clusterRoleBinding
    | .serviceAccount | .horizontalPodAutoscaler | .podDisruptionBudget | .persistentVolumeClaim =>
    exact .other _ (by decide) (by decide)

theorem body_of_ofName?_eq_none (h : Kind.ofName? kind = none) (v : Value) :
    body kind v = .unknown kind (metadata v) := by
  unfold body
  rw [h]

theorem kindName_body (kind : String) (v : Value) : (body kind v).kindName = kind := by
  cases h : Kind.ofName? kind with
  | none => rw [body_of_ofName?_eq_none h]; rfl
  | some k => rw [Body.kindName_of_kind? (body_readAs h v).kind?, Kind.name_of_ofName? h]

end ManifestValue

theorem Identity.kind_ofApiVersion (apiVersion kind : String) :
    (Identity.ofApiVersion apiVersion kind).kind = kind := by
  unfold Identity.ofApiVersion
  split <;> rfl

namespace Object

variable {file : String} {line : Nat} {v : Value} {o : Object}

theorem text?_kind_of_ofValue (h : Object.ofValue file line v = .ok o) :
    ManifestValue.text? v "kind" = some o.identity.kind := by
  obtain ⟨av, kind, -, hkind, rfl⟩ := ofValue_eq_ok_iff.1 h
  rw [hkind, identity, Identity.kind_ofApiVersion, ManifestValue.kindName_body]

/-- An object that the catalogue entry of a kind accepts was read as that kind. -/
theorem readAs_of_labelAccepts {k : Kind} (h : Object.ofValue file line v = .ok o)
    (ha : KindName.labelAccepts k.name o.identity = true) : o.kind? = some k ∧ o.body.ReadAs k := by
  obtain ⟨av, kind, -, hkind, rfl⟩ := ofValue_eq_ok_iff.1 h
  have hname : k.name = kind := by
    rw [KindName.labelAccepts_name, KindName.isKind_iff] at ha
    rw [← ha.1, identity, Identity.kind_ofApiVersion, ManifestValue.kindName_body]
  have hread := ManifestValue.body_readAs (Kind.ofName?_eq_some_iff.2 hname) v
  exact ⟨hread.kind?, hread⟩

theorem workload_of_labelAccepts_deploymentLike (h : Object.ofValue file line v = .ok o)
    (ha : KindName.labelAccepts "DeploymentLike" o.identity = true) :
    ∃ k ∈ Kind.workloads, ∃ w, o.body = .workload k w := by
  rw [KindName.labelAccepts_deploymentLike, List.any_map] at ha
  obtain ⟨k, hk, hka⟩ := List.any_eq_true.1 ha
  exact ⟨k, hk, (readAs_of_labelAccepts h hka).2.eq_workload hk⟩

end Object

/-! ## Objects of a manifest -/

section Objects

variable {file text : String} {o : Object}

theorem Section.ofValue_of_mem_filterMap_object? {ss : List Section}
    (ho : o ∈ ss.filterMap (·.object? file)) : ∃ line v, Object.ofValue file line v = .ok o := by
  obtain ⟨s, -, hso⟩ := List.mem_filterMap.1 ho
  obtain ⟨v, -, hv⟩ := Section.ofValue_of_read_eq_object (Section.object?_eq_some.1 hso)
  exact ⟨s.line, v, hv⟩

theorem Context.ofValue_of_mem_objects (ho : o ∈ (Context.ofText file text).objects) :
    ∃ line v, Object.ofValue file line v = .ok o := by
  rw [Context.objects_ofText] at ho
  exact Section.ofValue_of_mem_filterMap_object? ho

theorem ofValue_of_mem_readObjects {objs : List Object} (h : readObjects file text = .ok objs)
    (ho : o ∈ objs) : ∃ line v, Object.ofValue file line v = .ok o := by
  obtain ⟨-, rfl⟩ := readObjects_go_eq_ok.1 h
  exact Section.ofValue_of_mem_filterMap_object? ho

end Objects

/-! ## Registered checks -/

section Checks

variable {spec : CheckSpec} {taken : Bool} {c : RegisteredCheck}

theorem CheckSpec.prepare_false_of_prepare (h : spec.prepare taken = .ok c) :
    c.spec.prepare false = .ok c := by
  obtain ⟨-, rfl⟩ := CheckSpec.admissible_of_prepare h
  rwa [CheckSpec.prepare_spec h]

theorem CheckSpec.scope_of_prepare (h : spec.prepare taken = .ok c) :
    ∃ t, Template.ofKey? spec.template = some t ∧ c.scope.names = spec.scope.getD t.objectKinds ∧
      Scope.resolve c.scope.names = .ok c.scope := by
  obtain ⟨-, -, t, params, scope, rule, ht, -, hs, -, rfl⟩ := CheckSpec.prepare_eq_ok.1 h
  obtain ⟨-, hscope⟩ := Scope.resolve_eq_ok_iff.1 hs
  have hnames : scope.names = spec.scope.getD t.objectKinds := by rw [hscope]
  exact ⟨t, ht, hnames, hnames ▸ hs⟩

theorem Registry.Reachable.prepare_of_mem {r : Registry} (hr : r.Reachable) (hc : c ∈ r.checks) :
    c.spec.prepare false = .ok c := by
  induction hr with
  | empty => cases hc
  | registerOne hr hone ih =>
    obtain ⟨c', hc', rfl⟩ := Registry.registerOne_eq_ok.1 hone
    rcases List.mem_append.1 hc with hc | hc
    · exact ih hc
    · obtain rfl := List.mem_singleton.1 hc
      exact CheckSpec.prepare_false_of_prepare hc'
  | register specs hr ih =>
    rw [Registry.register_fst, (Registry.foldl_registerStep_eq hr.consistent specs []).1] at hc
    rcases List.mem_append.1 hc with hc | hc
    · exact ih hc
    · obtain ⟨o, ho, hoc⟩ := List.mem_filterMap.1 hc
      have hok : o.2 = .ok c := by
        revert hoc
        cases o.2 <;> simp [Except.toOption]
      -- the position's bound stays: the specification at that position depends on it
      obtain ⟨i, hi, rfl⟩ := List.mem_mapIdx.1 ho
      exact CheckSpec.prepare_false_of_prepare hok

end Checks

/-- Typed readings agree with the kind catalogue. Every object of a manifest, in its context or
its list of objects, is read from a document, and its identity carries the document's kind name.
When the catalogue entry of a kind accepts it, it was read as that kind: a service, a workload for
the workload kinds, metadata alone otherwise; when `DeploymentLike` accepts it, it was read as a
workload. So in a reachable registry a dangling-service check under its template's scope looks
only at services, and a check scoped to `DeploymentLike` only at workloads. -/
theorem typed_readings_agree_with_scopes :
    (∀ file text o, o ∈ (Context.ofText file text).objects →
      ∃ line v, Object.ofValue file line v = .ok o) ∧
    (∀ file text objs o, readObjects file text = .ok objs → o ∈ objs →
      ∃ line v, Object.ofValue file line v = .ok o) ∧
    (∀ file line v o, Object.ofValue file line v = .ok o →
      ManifestValue.text? v "kind" = some o.identity.kind ∧
      (∀ k : Kind, KindName.labelAccepts k.name o.identity = true →
        o.kind? = some k ∧ o.body.ReadAs k) ∧
      (KindName.labelAccepts "DeploymentLike" o.identity = true →
        ∃ k ∈ Kind.workloads, ∃ w, o.body = .workload k w)) ∧
    (∀ r, Registry.Reachable r → ∀ c ∈ r.checks, ∀ file line v o,
      Object.ofValue file line v = .ok o → c.scope.accepts o.identity = true →
      (c.spec.template = "dangling-service" → c.spec.scope = none → ∃ s, o.body = .service s) ∧
      (c.scope.names = ["DeploymentLike"] → ∃ k ∈ Kind.workloads, ∃ w, o.body = .workload k w)) := by
  refine ⟨fun _ _ _ => Context.ofValue_of_mem_objects, fun _ _ _ _ => ofValue_of_mem_readObjects,
    fun _ _ _ _ h => ⟨Object.text?_kind_of_ofValue h, fun _ => Object.readAs_of_labelAccepts h,
      Object.workload_of_labelAccepts_deploymentLike h⟩,
    fun r hr c hc file line v o h ha => ⟨fun htemplate hscope => ?_, fun hnames => ?_⟩⟩
  · obtain ⟨t, ht, hnames, hres⟩ := CheckSpec.scope_of_prepare (hr.prepare_of_mem hc)
    rw [htemplate] at ht
    obtain rfl : t = .danglingService := (Option.some.inj ht).symm
    rw [hscope] at hnames
    rw [Scope.accepts_of_resolve hres, hnames] at ha
    have hservice : KindName.labelAccepts "Service" o.identity = true := by
      simpa [Template.objectKinds] using ha
    exact (Object.readAs_of_labelAccepts (k := .service) h hservice).2.eq_service
  · obtain ⟨-, -, -, hres⟩ := CheckSpec.scope_of_prepare (hr.prepare_of_mem hc)
    rw [Scope.accepts_of_resolve hres, hnames] at ha
    exact Object.workload_of_labelAccepts_deploymentLike h (by simpa using ha)

end ManifestLint
