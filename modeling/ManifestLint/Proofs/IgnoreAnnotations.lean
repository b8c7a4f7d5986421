import ManifestLint.Proofs.ManifestReading
import ManifestLint.Proofs.CheckRuns

/-! # Opting out of checks by annotation

An object opts out of every check with the annotation `kube-linter.io/ignore-all`, and out of one
check with `ignore-check.kube-linter.io/` followed by the check's name. Annotations are read from a
document's `metadata.annotations` mapping as texts: an entry whose key is a string and whose value
is a string, a number or a boolean becomes an annotation, the value kept in its YAML spelling,
and every other entry is dropped.

The main statement is that a run over a manifest never reports on a document carrying an
opting-out annotation with such a value, the document being the section that starts on the
report's line. An entry written with nothing after its key has a null value and is dropped, so it
does not exempt the object: a run does report on such a document.
-/

namespace ManifestLint

open Yaml

/-! ## Text maps -/

namespace Dict

theorem lookup_cons_ite (k a b : String) (es : List (String × String)) :
    ((k, b) :: es).lookup a = if a = k then some b else es.lookup a := by
  by_cases ha : a = k
  · simp [ha]
  · have hne : (a == k) = false := by simpa using ha
    simp [List.lookup_cons, ha, hne]

theorem lookup_insertEntry (k v a : String) (es : List (String × String)) :
    (insertEntry k v es).lookup a = if a = k then some v else es.lookup a := by
  induction es with
  | nil => simp [insertEntry]
  | cons e rest ih =>
    obtain ⟨k', v'⟩ := e
    unfold insertEntry
    by_cases hlt : k < k'
    · simp [hlt, lookup_cons_ite]
    · by_cases heq : k = k'
      · subst heq
        by_cases ha : a = k <;> simp [ha, lookup_cons_ite]
      · by_cases ha : a = k'
        · subst ha
          simp [hlt, heq, Ne.symm heq]
        · simp [hlt, heq, ha, lookup_cons_ite, ih]

theorem contains_insert (d : Dict) (k v a : String) :
    (d.insert k v).contains a = (a == k || d.contains a) := by
  by_cases ha : a = k <;> simp [contains, get?, insert, lookup_insertEntry, ha]

theorem contains_empty (a : String) : ({} : Dict).contains a = false := rfl

theorem contains_foldl_insert (d : Dict) (es : List (String × String)) (a : String) :
    (es.foldl (fun d e => d.insert e.1 e.2) d).contains a = true ↔
      d.contains a = true ∨ ∃ v, (a, v) ∈ es := by
  induction es generalizing d with
  | nil => simp
  | cons e es ih =>
    rw [List.foldl_cons, ih, contains_insert]
    obtain ⟨k, v⟩ := e
    by_cases ha : a = k
    · subst ha
      simp
    · simp [ha]

theorem contains_ofList (es : List (String × String)) (a : String) :
    (ofList es).contains a = true ↔ ∃ v, (a, v) ∈ es := by
  rw [ofList, contains_foldl_insert, contains_empty]
  simp

end Dict

/-! ## Annotations of an object -/

namespace ManifestValue

theorem contains_dict (m : Option Value) (key a : String) :
    (dict m key).contains a = true ↔
      ∃ es, ((m.bind (·.get? key)).bind Value.asMapping?) = some es ∧
        ∃ k val, (k, val) ∈ es ∧ k.asString? = some a ∧ (entryText? val).isSome := by
  unfold dict
  cases hm : (m.bind (·.get? key)).bind Value.asMapping? with
  | none => simp [Dict.contains_empty]
  | some es =>
    simp only [Dict.contains_ofList, List.mem_filterMap, Option.some.injEq, exists_eq_left']
    constructor
    · rintro ⟨t, ⟨k, val⟩, hmem, hkv⟩
      cases hk : k.asString? <;> cases hv : entryText? val <;> simp_all
      exact ⟨k, val, hmem, by simp_all⟩
    · rintro ⟨k, val, hmem, hk, hv⟩
      obtain ⟨t, ht⟩ := Option.isSome_iff_exists.1 hv
      exact ⟨t, (k, val), hmem, by simp [hk, ht]⟩

theorem entryText?_isSome (val : Value) :
    (entryText? val).isSome ↔ (∃ t, val = .string t) ∨ (∃ n, val = .number n) ∨
      ∃ b, val = .bool b := by
  cases val <;> simp [entryText?]

theorem metadata_body (kind : String) (v : Value) : (body kind v).metadata = metadata v := by
  unfold body
  split
  · rfl
  · rfl
  · rfl
  · split <;> rfl
  · rfl

end ManifestValue

theorem Object.annotations_of_ofValue {file : String} {line : Nat} {v : Value} {o : Object}
    (h : Object.ofValue file line v = .ok o) :
    o.annotations = ManifestValue.dict (v.get? "metadata") "annotations" := by
  obtain ⟨av, kind, -, -, rfl⟩ := Object.ofValue_eq_ok_iff.1 h
  simp [Object.annotations, Object.metadata, ManifestValue.metadata_body, ManifestValue.metadata]

theorem Section.annotations_of_read {file : String} {s : Section} {o : Object} {v : Value}
    (h : s.read file = .ok (.object o)) (hv : readValue s.text = .ok v) :
    o.annotations = ManifestValue.dict (v.get? "metadata") "annotations" := by
  obtain ⟨v', hv', ho⟩ := Section.ofValue_of_read_eq_object h
  obtain rfl : v' = v := Except.ok.inj (hv'.symm.trans hv)
  exact Object.annotations_of_ofValue ho

theorem Section.eq_of_line_eq {ss : List Section} (hss : ss.Pairwise (·.line < ·.line))
    {s t : Section} (hs : s ∈ ss) (ht : t ∈ ss) (hline : s.line = t.line) : s = t := by
  have hnd : (ss.map (·.line)).Nodup := (List.pairwise_map.2 hss).imp Nat.ne_of_lt
  exact List.inj_on_of_nodup_map hnd hs ht hline

/-! ## Runs skip the objects that opt out -/

/-- A run over a manifest never reports on a document whose annotations mapping carries
`kube-linter.io/ignore-all`, or `ignore-check.kube-linter.io/` followed by the report's check, with
a string, number or boolean value; the document is the section starting on the report's line. -/
theorem reports_skip_opted_out_documents (file text : String) (K : List RegisteredCheck) :
    ∀ r ∈ runChecks [Context.ofText file text] K, ∀ s ∈ Section.ofText text, s.line = r.line →
      ∀ v, readValue s.text = .ok v →
      ∀ es, ((v.get? "metadata").bind (·.get? "annotations")).bind Value.asMapping? = some es →
      ∀ k, (k = "kube-linter.io/ignore-all" ∨ k = ignoreCheckPrefix ++ r.check) →
      ∀ val, (Value.string k, val) ∈ es →
        ¬((∃ t, val = .string t) ∨ (∃ n, val = .number n) ∨ ∃ b, val = .bool b) := by
  intro r hr s hs hline v hv es hes k hk val hmem hval
  obtain ⟨ctx, hctx, o, ho, c, -, hrep⟩ := mem_runChecks.1 hr
  obtain rfl := List.mem_singleton.1 hctx
  obtain ⟨hlooks, m, -, rfl⟩ := RegisteredCheck.mem_reportsOn.1 hrep
  rw [Context.objects_ofText] at ho
  obtain ⟨s', hs', hso⟩ := List.mem_filterMap.1 ho
  have hread := Section.object?_eq_some.1 hso
  have hsame : s' = s := Section.eq_of_line_eq (Section.pairwise_line_ofText text) hs' hs
    ((Section.place_of_read_eq_object hread).2.symm.trans hline.symm)
  subst hsame
  have hcontains : o.annotations.contains k = true := by
    rw [Section.annotations_of_read hread hv, ManifestValue.contains_dict]
    exact ⟨es, hes, .string k, val, hmem, rfl, (ManifestValue.entryText?_isSome val).2 hval⟩
  have hignored : o.ignoresCheck c.spec.name = true := by
    rcases hk with rfl | rfl
    · simp [Object.ignoresCheck, Object.ignoresAll, hcontains]
    · simp only [Object.ignoresCheck, Bool.or_eq_true]
      exact .inr hcontains
  simp [RegisteredCheck.looksAt, hignored] at hlooks

/-! ## An opting-out annotation without a value -/

theorem Yaml.Value.eq_null_of_same_null {v : Value} (h : v.same .null = true) : v = .null := by
  cases v <;> simp_all [Value.same]

/-- A deployment without a replica count whose `kube-linter.io/ignore-all` annotation is written
with nothing after the key. -/
def ignoreAllWithoutValue : String :=
  "apiVersion: apps/v1\nkind: Deployment\nmetadata:\n  name: web\n  annotations:\n" ++
    "    kube-linter.io/ignore-all:\n"

/-- The check that registering the built-in `minimum-three-replicas` makes: three replicas at least,
for deployment-like objects. -/
def threeReplicasCheck : RegisteredCheck :=
  ⟨{ name := "minimum-three-replicas", template := "minimum-replicas" }, .minimumReplicas 3,
    ⟨["DeploymentLike"], [.deploymentLike]⟩⟩

theorem runChecks_ignoreAllWithoutValue :
    ∃ r ∈ runChecks [Context.ofText "<stdin>" ignoreAllWithoutValue] [threeReplicasCheck],
      r.line = 1 := by
  decide +kernel

theorem ofText_ignoreAllWithoutValue :
    Section.ofText ignoreAllWithoutValue =
      [⟨1, "apiVersion: apps/v1\nkind: Deployment\nmetadata:\n  name: web\n  annotations:\n" ++
        "    kube-linter.io/ignore-all:"⟩] := by
  decide +kernel

theorem Except.eq_ok_of_toOption_eq_some {ε α : Type} {x : Except ε α} {a : α}
    (h : x.toOption = some a) : x = .ok a := by
  cases x <;> simp_all [Except.toOption]

theorem annotations_ignoreAllWithoutValue :
    ∃ v, readValue ("apiVersion: apps/v1\nkind: Deployment\nmetadata:\n  name: web\n" ++
        "  annotations:\n    kube-linter.io/ignore-all:") = .ok v ∧
      ∃ es, ((v.get? "metadata").bind (·.get? "annotations")).bind Value.asMapping? = some es ∧
        (Value.string "kube-linter.io/ignore-all", Value.null) ∈ es := by
  -- the reader is evaluated once, into a test of the entries that the kernel decides
  have hnull : ((readValue ("apiVersion: apps/v1\nkind: Deployment\nmetadata:\n  name: web\n" ++
      "  annotations:\n    kube-linter.io/ignore-all:")).toOption.bind fun v =>
      ((v.get? "metadata").bind (·.get? "annotations")).bind Value.asMapping?).map
      (·.any fun e => e.1.isKey "kube-linter.io/ignore-all" && e.2.same .null) = some true := by
    decide +kernel
  obtain ⟨es, hes, hany⟩ := Option.map_eq_some_iff.1 hnull
  obtain ⟨v, hv, hes⟩ := Option.bind_eq_some_iff.1 hes
  obtain ⟨⟨k, val⟩, he, hkey⟩ := List.any_eq_true.1 hany
  obtain ⟨hk, hval⟩ := Bool.and_eq_true_iff.1 hkey
  refine ⟨v, ?_, es, hes, ?_⟩
  · exact Except.eq_ok_of_toOption_eq_some hv
  · rwa [← Value.eq_string_of_isKey hk, ← Value.eq_null_of_same_null hval]

/-- The three-replica check reports on a deployment whose `kube-linter.io/ignore-all` annotation is
written without a value: the report is about the document that starts on its line, and that
document's annotations mapping has the key, with a null value. -/
theorem ignore_all_without_value_is_reported :
    ∃ r ∈ runChecks [Context.ofText "<stdin>" ignoreAllWithoutValue] [threeReplicasCheck],
    ∃ s ∈ Section.ofText ignoreAllWithoutValue, s.line = r.line ∧ ∃ v, readValue s.text = .ok v ∧
      ∃ es, ((v.get? "metadata").bind (·.get? "annotations")).bind Value.asMapping? = some es ∧
        (Value.string "kube-linter.io/ignore-all", Value.null) ∈ es := by
  obtain ⟨r, hr, hline⟩ := runChecks_ignoreAllWithoutValue
  rw [ofText_ignoreAllWithoutValue]
  exact ⟨r, hr, _, List.mem_singleton_self _, hline.symm, annotations_ignoreAllWithoutValue⟩

/-- The premises of `reports_skip_opted_out_documents` are met on the deployment whose
`kube-linter.io/ignore-all` annotation has a null value, and its conclusion holds there: the value
of the entry is none of a string, a number and a boolean. -/
theorem reports_skip_opted_out_documents_null_value :
    ∃ r ∈ runChecks [Context.ofText "<stdin>" ignoreAllWithoutValue] [threeReplicasCheck],
    ∃ s ∈ Section.ofText ignoreAllWithoutValue, s.line = r.line ∧ ∃ v, readValue s.text = .ok v ∧
      ∃ es, ((v.get? "metadata").bind (·.get? "annotations")).bind Value.asMapping? = some es ∧
        (Value.string "kube-linter.io/ignore-all", Value.null) ∈ es ∧
        ¬((∃ t, Value.null = .string t) ∨ (∃ n, Value.null = .number n) ∨
          ∃ b, Value.null = .bool b) := by
  obtain ⟨r, hr, hline⟩ := runChecks_ignoreAllWithoutValue
  obtain ⟨v, hv, es, hes, hmem⟩ := annotations_ignoreAllWithoutValue
  have hs : (⟨1, "apiVersion: apps/v1\nkind: Deployment\nmetadata:\n  name: web\n" ++
      "  annotations:\n    kube-linter.io/ignore-all:"⟩ : Section) ∈
      Section.ofText ignoreAllWithoutValue := by
    rw [ofText_ignoreAllWithoutValue]
    exact List.mem_singleton_self _
  exact ⟨r, hr, _, hs, hline.symm, v, hv, es, hes, hmem,
    reports_skip_opted_out_documents "<stdin>" ignoreAllWithoutValue [threeReplicasCheck] r hr
      _ hs hline.symm v hv es hes _ (.inl rfl) _ hmem⟩

end ManifestLint
