import Mathlib
import ManifestLint.Proofs.DanglingServices
import ManifestLint.Proofs.IgnoreAnnotations

/-! # Reading a document as an object

A document is an object when it has a string `apiVersion` and a string `kind`. Without the first it
is refused as having no `apiVersion`; with the first but without the second, as having no kind.
An object takes its identity from the two, and its typed kind from the kind name alone, whatever
the group. The rest of it is read leniently:

* the name is the string `metadata.name`, or the empty text; the namespace is the string
  `metadata.namespace`, if there is one;
* labels and annotations are text maps, each key bound to the text of the last entry of the
  mapping with that string key and a string, number or boolean value (`Dict.IsTextMapOf`);
* the kinds that scale by replicas count `spec.replicas` when it is an integer that fits a signed
  32-bit word, and one otherwise; the other kinds have no count;
* the pod template of a workload is its `spec.template`, that of a pod the pod itself, and that of
  a cron job the template of its `spec.jobTemplate`; other kinds have none.

The main statement, `ofValue_reads_document`, says all of this of every document.
-/

namespace ManifestLint

open Yaml

/-! ## Text maps -/

theorem findSome?_filterMap {α β γ : Type} (g : α → Option β) (f : β → Option γ) (xs : List α) :
    (xs.filterMap g).findSome? f = xs.findSome? fun x => (g x).bind f := by
  induction xs with
  | nil => rfl
  | cons x xs ih => cases h : g x <;> simp [List.findSome?_cons, h, ih]

namespace Dict

theorem get?_insert (d : Dict) (k v a : String) :
    (d.insert k v).get? a = if a = k then some v else d.get? a :=
  lookup_insertEntry k v a d.entries

theorem get?_foldl_insert (es : List (String × String)) (d : Dict) (a : String) :
    (es.foldl (fun d e => d.insert e.1 e.2) d).get? a = (es.reverse.lookup a).or (d.get? a) := by
  induction es generalizing d with
  | nil => simp
  | cons e es ih =>
    obtain ⟨k, v⟩ := e
    rw [List.foldl_cons, ih, get?_insert, List.reverse_cons, List.lookup_append, Option.or_assoc]
    by_cases ha : a = k <;> simp [ha]

theorem get?_ofList (es : List (String × String)) (a : String) :
    (ofList es).get? a = es.reverse.lookup a := by
  rw [ofList, get?_foldl_insert]
  exact Option.or_none

theorem get?_ofList_filterMap_eq_some {β : Type} {key val : β → Option String}
    {g : β → Option (String × String)} (hg : ∀ x, g x = (key x).bind fun k => (val x).map (k, ·))
    (xs : List β) (a t : String) :
    (ofList (xs.filterMap g)).get? a = some t ↔
      ∃ pre x post, xs = pre ++ x :: post ∧ key x = some a ∧ val x = some t ∧
        ∀ y ∈ post, key y = some a → val y = none := by
  rw [get?_ofList, ← List.filterMap_reverse, List.lookup_eq_findSome?, findSome?_filterMap,
    List.findSome?_eq_some_iff]
  have hsel : ∀ y, ((g y).bind fun p => if a == p.1 then some p.2 else none) =
      if key y = some a then val y else none := by
    intro y
    rw [hg]
    cases key y with
    | none => simp
    | some k =>
      by_cases hk : a = k
      · subst hk
        cases val y <;> simp
      · cases val y <;> simp [hk, Ne.symm hk]
  have hpick : ∀ y, ((g y).bind fun p => if a == p.1 then some p.2 else none) = some t ↔
      key y = some a ∧ val y = some t := by
    intro y
    rw [hsel]
    split <;> simp [*]
  have hskip : ∀ y, ((g y).bind fun p => if a == p.1 then some p.2 else none) = none ↔
      (key y = some a → val y = none) := by
    intro y
    rw [hsel]
    split <;> simp [*]
  constructor
  · rintro ⟨l₁, y, l₂, hrev, hy, hl₁⟩
    obtain ⟨hkey, hval⟩ := (hpick y).1 hy
    refine ⟨l₂.reverse, y, l₁.reverse, ?_, hkey, hval,
      fun z hz => (hskip z).1 (hl₁ z (List.mem_reverse.1 hz))⟩
    rw [← List.reverse_reverse xs, hrev]
    simp
  · rintro ⟨pre, y, post, rfl, hkey, hval, hpost⟩
    exact ⟨post.reverse, y, pre.reverse, by simp, (hpick y).2 ⟨hkey, hval⟩,
      fun z hz => (hskip z).2 (hpost z (List.mem_reverse.1 hz))⟩

/-- The text map read from the mapping under `key` of a part of a document: it binds a key exactly
to the text of the last entry of the mapping whose key is that string and whose value is a string,
a number or a boolean. -/
def IsTextMapOf (d : Dict) (m : Option Value) (key : String) : Prop :=
  ∀ a t, d.get? a = some t ↔
    ∃ es, (m.bind (·.get? key)).bind Value.asMapping? = some es ∧
      ∃ pre e post, es = pre ++ e :: post ∧ e.1.asString? = some a ∧
        ManifestValue.entryText? e.2 = some t ∧
        ∀ e' ∈ post, e'.1.asString? = some a → ManifestValue.entryText? e'.2 = none

end Dict

namespace ManifestValue

/-- Every text map of a document is read as `Dict.IsTextMapOf` says. -/
theorem dict_isTextMapOf (m : Option Value) (key : String) : (dict m key).IsTextMapOf m key := by
  intro a t
  unfold dict
  cases hm : (m.bind (·.get? key)).bind Value.asMapping? with
  | none => simp [Dict.get?]
  | some es =>
    simp only [Option.some.injEq, exists_eq_left']
    refine @Dict.get?_ofList_filterMap_eq_some _ (fun e => e.1.asString?) (fun e => entryText? e.2)
      _ (fun e => ?_) es a t
    cases e.1.asString? <;> cases entryText? e.2 <;> rfl

/-! ## The contents of an object -/

variable {kind : String}

theorem kind?_body (kind : String) (v : Value) : (body kind v).kind? = Kind.ofName? kind := by
  cases h : Kind.ofName? kind with
  | none => rw [body_of_ofName?_eq_none h]; rfl
  | some k => exact (body_readAs h v).kind?

theorem workload_replicas (v : Value) (m : Metadata) :
    (workload v m).replicas = (((v.get? "spec").bind (·.get? "replicas")).bind Value.asInt?).filter
      fun n => decide (-2147483648 ≤ n ∧ n < 2147483648) := by
  have hfits : fitsInt32 = fun n => decide (-2147483648 ≤ n ∧ n < 2147483648) := by
    funext n
    simp [fitsInt32]
  simp only [workload, int32?, hfits]
  cases v.get? "spec" <;> rfl

theorem replicas_body (kind : String) (v : Value) :
    (body kind v).replicas =
      if (body kind v).kind? ∈ [some Kind.deployment, some Kind.statefulSet, some Kind.replicaSet,
          some Kind.replicationController, some Kind.deploymentConfig] then
        some (((((v.get? "spec").bind (·.get? "replicas")).bind Value.asInt?).filter
          fun n => decide (-2147483648 ≤ n ∧ n < 2147483648)).getD 1)
      else none := by
  unfold body
  cases Kind.ofName? kind with
  | none => simp [Body.replicas, Body.kind?]
  | some k =>
    cases k <;> simp [Body.replicas, Body.kind?, Body.scalesByReplicas, Kind.workloads,
      workload_replicas]

theorem template?_body (kind : String) (v : Value) :
    (body kind v).template? =
      if (body kind v).kind? = some Kind.pod then
        some { labels := (metadata v).labels, spec := ((v.get? "spec").map podSpec).getD {} }
      else if (body kind v).kind? = some Kind.cronJob then
        ((((v.get? "spec").bind (·.get? "jobTemplate")).bind (·.get? "spec")).bind
          (·.get? "template")).map podTemplate
      else if (body kind v).kind? ∈ [some Kind.deployment, some Kind.statefulSet,
          some Kind.daemonSet, some Kind.replicaSet, some Kind.replicationController,
          some Kind.deploymentConfig, some Kind.job] then
        ((v.get? "spec").bind (·.get? "template")).map podTemplate
      else none := by
  unfold body
  cases Kind.ofName? kind with
  | none => simp [Body.template?, Body.kind?]
  | some k =>
    cases k <;> simp [Body.template?, Body.kind?, Kind.workloads, workload, pod, cronJob]

end ManifestValue

/-! ## Objects -/

namespace Object

variable {file : String} {line : Nat} {v : Value}

theorem ofValue_of_no_apiVersion (h : (v.get? "apiVersion").bind Value.asString? = none) :
    Object.ofValue file line v = .error .noApiVersion := by
  simp [Object.ofValue, ManifestValue.text?, h]

theorem ofValue_of_no_kind {av : String}
    (hav : (v.get? "apiVersion").bind Value.asString? = some av)
    (h : (v.get? "kind").bind Value.asString? = none) :
    Object.ofValue file line v = .error .noKind := by
  simp [Object.ofValue, ManifestValue.text?, hav, h]

theorem ofValue_of_kind {av kind : String}
    (hav : (v.get? "apiVersion").bind Value.asString? = some av)
    (hkind : (v.get? "kind").bind Value.asString? = some kind) :
    Object.ofValue file line v = .ok ⟨file, line, av, ManifestValue.body kind v⟩ := by
  simp [Object.ofValue, ManifestValue.text?, hav, hkind]

end Object

/-- Reading a document as an object. A document without a string `apiVersion` is refused with
"object has no apiVersion"; one with it but without a string `kind`, with "object has no kind".
Any other document is an object, stamped with the manifest and the line it is read from. Its
identity comes from the `apiVersion` and the kind name, and its typed kind is the kind of that
name whatever the group; it is read as that kind, and as an unknown kind carrying the name when no
kind has it. Its name is the string `metadata.name` or the empty text, its namespace the string
`metadata.namespace`, and its labels and annotations are the text maps of the mappings under
`metadata`. The kinds that scale by replicas count `spec.replicas` when it is an integer that fits
a signed 32-bit word, and one otherwise; the other kinds have no count. The pod template of a pod
is the pod itself, of a cron job the template of its `spec.jobTemplate`, and of the other workload
kinds their `spec.template`; other kinds have none. -/
theorem ofValue_reads_document (file : String) (line : Nat) (v : Value) :
    ((v.get? "apiVersion").bind Value.asString? = none →
      ∃ e, Object.ofValue file line v = .error e ∧ e.message = "object has no apiVersion") ∧
    (∀ av, (v.get? "apiVersion").bind Value.asString? = some av →
      (v.get? "kind").bind Value.asString? = none →
      ∃ e, Object.ofValue file line v = .error e ∧ e.message = "object has no kind") ∧
    ∀ av kind, (v.get? "apiVersion").bind Value.asString? = some av →
      (v.get? "kind").bind Value.asString? = some kind →
      ∃ o, Object.ofValue file line v = .ok o ∧
        o.identity = Identity.ofApiVersion av kind ∧ o.file = file ∧ o.line = line ∧
        (∀ k, o.kind? = some k ↔ k.name = kind) ∧
        (∀ k, o.kind? = some k → o.body.ReadAs k) ∧
        (o.kind? = none → o.body = .unknown kind o.metadata) ∧
        o.name = (((v.get? "metadata").bind (·.get? "name")).bind Value.asString?).getD "" ∧
        o.namespace? = ((v.get? "metadata").bind (·.get? "namespace")).bind Value.asString? ∧
        o.labels.IsTextMapOf (v.get? "metadata") "labels" ∧
        o.annotations.IsTextMapOf (v.get? "metadata") "annotations" ∧
        o.body.replicas =
          (if o.kind? ∈ [some Kind.deployment, some Kind.statefulSet, some Kind.replicaSet,
              some Kind.replicationController, some Kind.deploymentConfig] then
            some (((((v.get? "spec").bind (·.get? "replicas")).bind Value.asInt?).filter
              fun n => decide (-2147483648 ≤ n ∧ n < 2147483648)).getD 1)
          else none) ∧
        o.template? =
          (if o.kind? = some Kind.pod then
            some { labels := o.labels, spec := ((v.get? "spec").map ManifestValue.podSpec).getD {} }
          else if o.kind? = some Kind.cronJob then
            ((((v.get? "spec").bind (·.get? "jobTemplate")).bind (·.get? "spec")).bind
              (·.get? "template")).map ManifestValue.podTemplate
          else if o.kind? ∈ [some Kind.deployment, some Kind.statefulSet, some Kind.daemonSet,
              some Kind.replicaSet, some Kind.replicationController, some Kind.deploymentConfig,
              some Kind.job] then
            ((v.get? "spec").bind (·.get? "template")).map ManifestValue.podTemplate
          else none) := by
  refine ⟨fun h => ⟨_, Object.ofValue_of_no_apiVersion h, rfl⟩,
    fun av hav h => ⟨_, Object.ofValue_of_no_kind hav h, rfl⟩,
    fun av kind hav hkind => ⟨_, Object.ofValue_of_kind hav hkind, ?_⟩⟩
  have hkind? := ManifestValue.kind?_body kind v
  have hmeta := ManifestValue.metadata_body kind v
  refine ⟨by rw [Object.identity, ManifestValue.kindName_body], rfl, rfl,
    fun k => by rw [Object.kind?, hkind?, Kind.ofName?_eq_some_iff], fun k hk => ?_,
    fun hk => ?_, ?_, ?_, ?_, ?_, ManifestValue.replicas_body kind v, ?_⟩
  · exact ManifestValue.body_readAs (hkind? ▸ hk) v
  · rw [Object.metadata, hmeta]
    exact ManifestValue.body_of_ofName?_eq_none (hkind? ▸ hk) v
  · simp [Object.name, Object.metadata, hmeta, ManifestValue.metadata, ManifestValue.text?,
      Option.bind_assoc]
  · simp [Object.namespace?, Object.metadata, hmeta, ManifestValue.metadata, ManifestValue.text?,
      Option.bind_assoc]
  · rw [Object.labels, Object.metadata, hmeta]
    exact ManifestValue.dict_isTextMapOf _ _
  · rw [Object.annotations, Object.metadata, hmeta]
    exact ManifestValue.dict_isTextMapOf _ _
  · rw [Object.template?, ManifestValue.template?_body, Object.labels, Object.metadata, hmeta]
    rfl

end ManifestLint
