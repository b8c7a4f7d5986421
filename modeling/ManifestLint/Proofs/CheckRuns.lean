import Mathlib.Data.List.Nodup
import ManifestLint.Checks.Run

/-! # How runs of checks compose

A run walks the contexts in order, the objects of each context in order, and the checks in order,
and turns each message of a check that looks at an object into one report. A check looks at an
object when its scope accepts the object and the object does not opt out of it.

Two laws follow, whatever the checks do with the context they are given. Running over two lists
of contexts gives the reports of the first followed by those of the second. And when the checks
have distinct names, the reports of one check in a run of many are exactly the run of that check
alone, so checks run apart report what they report together.
-/

namespace ManifestLint

/-- The report of a message of a check about an object: it names the check and its remediation,
and says where the object is and what it is. -/
def Report.about (c : RegisteredCheck) (o : Object) (m : String) : Report :=
  { check := c.spec.name, message := m, remediation := c.spec.remediation,
    file := o.file, line := o.line, identity := o.identity,
    name := o.name, namespace? := o.namespace? }

namespace RegisteredCheck

/-- Whether a check looks at an object: its scope accepts the object, and the object does not opt
out of the check. -/
def looksAt (c : RegisteredCheck) (o : Object) : Bool :=
  c.scope.accepts o.identity && !o.ignoresCheck c.spec.name

/-- The reports of a check about one object of a context. -/
def reportsOn (c : RegisteredCheck) (ctx : Context) (o : Object) : List Report :=
  if c.looksAt o then (c.rule.check ctx o).map (Report.about c o) else []

variable {c : RegisteredCheck} {ctx : Context} {o : Object} {r : Report}

theorem mem_reportsOn :
    r ∈ c.reportsOn ctx o ↔ c.looksAt o = true ∧ ∃ m ∈ c.rule.check ctx o, r = Report.about c o m := by
  unfold reportsOn
  cases c.looksAt o <;> simp [eq_comm]

theorem check_of_mem_reportsOn (h : r ∈ c.reportsOn ctx o) : r.check = c.spec.name := by
  obtain ⟨-, m, -, rfl⟩ := mem_reportsOn.1 h
  rfl

theorem filter_reportsOn (n : String) :
    (c.reportsOn ctx o).filter (·.check == n) = if c.spec.name = n then c.reportsOn ctx o else [] := by
  split
  · rename_i hn
    exact List.filter_eq_self.2 fun r hr => by simp [check_of_mem_reportsOn hr, hn]
  · rename_i hn
    exact List.filter_eq_nil_iff.2 fun r hr => by simp [check_of_mem_reportsOn hr, hn]

end RegisteredCheck

variable {A B : List Context} {K : List RegisteredCheck}

/-- A run is the reports of every check about every object, contexts first, then objects, then
checks. -/
theorem runChecks_eq (A : List Context) (K : List RegisteredCheck) :
    runChecks A K = A.flatMap fun ctx => ctx.objects.flatMap fun o => K.flatMap (·.reportsOn ctx o) := by
  unfold runChecks
  congr 1; funext ctx; congr 1; funext o; congr 1; funext c
  unfold RegisteredCheck.reportsOn RegisteredCheck.looksAt Report.about
  cases c.scope.accepts o.identity <;> cases o.ignoresCheck c.spec.name <;> rfl

theorem mem_runChecks {r : Report} :
    r ∈ runChecks A K ↔ ∃ ctx ∈ A, ∃ o ∈ ctx.objects, ∃ c ∈ K, r ∈ c.reportsOn ctx o := by
  simp [runChecks_eq]

theorem runChecks_append (A B : List Context) (K : List RegisteredCheck) :
    runChecks (A ++ B) K = runChecks A K ++ runChecks B K := by
  simp [runChecks_eq]

theorem flatMap_named_of_nodup {α : Type} (f : RegisteredCheck → List α)
    (hK : (K.map (·.spec.name)).Nodup) {c : RegisteredCheck} (hc : c ∈ K) :
    K.flatMap (fun c' => if c'.spec.name = c.spec.name then f c' else []) = f c := by
  obtain ⟨pre, post, rfl⟩ := List.append_of_mem hc
  have hother : ∀ c' ∈ pre ++ post, c'.spec.name ≠ c.spec.name := by
    intro c' hc' hn
    rw [List.map_append, List.map_cons, List.nodup_append, List.nodup_cons] at hK
    rcases List.mem_append.1 hc' with hpre | hpost
    · exact hK.2.2 _ (List.mem_map_of_mem hpre) _ List.mem_cons_self hn
    · exact hK.2.1.1 (hn ▸ List.mem_map_of_mem hpost)
  have hnil : ∀ l : List RegisteredCheck, (∀ c' ∈ l, c'.spec.name ≠ c.spec.name) →
      l.flatMap (fun c' => if c'.spec.name = c.spec.name then f c' else []) = [] := by
    intro l hl
    exact List.flatMap_eq_nil_iff.2 fun c' hc' => if_neg (hl c' hc')
  rw [List.flatMap_append, List.flatMap_cons, if_pos rfl,
    hnil pre fun c' h => hother c' (List.mem_append_left _ h),
    hnil post fun c' h => hother c' (List.mem_append_right _ h), List.nil_append, List.append_nil]

theorem filter_runChecks (hK : (K.map (·.spec.name)).Nodup) {c : RegisteredCheck} (hc : c ∈ K) :
    (runChecks A K).filter (·.check == c.spec.name) = runChecks A [c] := by
  simp only [runChecks_eq, List.filter_flatMap, RegisteredCheck.filter_reportsOn,
    flatMap_named_of_nodup (fun c' => c'.reportsOn _ _) hK hc, List.flatMap_singleton]

/-- A run over checks with distinct names. It is the concatenation, over the contexts in order,
their objects in order and the checks in order, of one report per message of each check that
looks at the object (its scope accepts the object and the object does not opt out), in the order
the check gives them; each report names the check and its remediation and points at the object.
Running over two lists of contexts gives the reports of the first followed by those of the
second; and the reports of a run that name one of its checks are the run of that check alone. -/
theorem runChecks_decomposes (hK : (K.map (·.spec.name)).Nodup) :
    runChecks A K = A.flatMap (fun ctx => ctx.objects.flatMap fun o => K.flatMap fun c =>
        if c.scope.accepts o.identity = true ∧ o.ignoresCheck c.spec.name = false then
          (c.rule.check ctx o).map fun m =>
            { check := c.spec.name, message := m, remediation := c.spec.remediation,
              file := o.file, line := o.line, identity := o.identity,
              name := o.name, namespace? := o.namespace? }
        else []) ∧
    runChecks (A ++ B) K = runChecks A K ++ runChecks B K ∧
    ∀ c ∈ K, (runChecks A K).filter (·.check == c.spec.name) = runChecks A [c] := by
  refine ⟨?_, runChecks_append A B K, fun c hc => filter_runChecks hK hc⟩
  rw [runChecks_eq]
  congr 1; funext ctx; congr 1; funext o; congr 1; funext c
  unfold RegisteredCheck.reportsOn RegisteredCheck.looksAt Report.about
  cases c.scope.accepts o.identity <;> cases o.ignoresCheck c.spec.name <;> rfl

/-- A deployment without a replica count, run by a replica check and a privilege check: the
reports naming the replica check are the run of that check alone. -/
theorem runChecks_decomposes_deployment :
    let ctx : Context := { objects := [⟨"<stdin>", 1, "apps/v1", .workload .deployment ⟨{}, none, none⟩⟩] }
    let K : List RegisteredCheck :=
      [⟨{ name := "replicas", template := "minimum-replicas" }, .minimumReplicas 3, ⟨["Any"], [.any]⟩⟩,
        ⟨{ name := "privileged", template := "privileged" }, .privileged, ⟨["Any"], [.any]⟩⟩]
    (K.map (·.spec.name)).Nodup ∧
      (runChecks [ctx] K).filter (·.check == "replicas") = runChecks [ctx] (K.take 1) := by
  intro ctx K
  exact ⟨by decide, (@runChecks_decomposes [ctx] [] K (by decide)).2.2 _ List.mem_cons_self⟩

end ManifestLint
