import Mathlib
import ManifestLint.Templates.Instantiate
import ManifestLint.Proofs.TypedReadings

/-! # Dangling services

A service is dangling when no object of its context, in its namespace, has a pod template whose
labels carry every entry of the service's selector, less the labels the check ignores. Services
of type `ExternalName` select nothing and are never dangling; a service without a selector is
reported as such.

The main statement (`danglingService_reports_unmatched_services`) says what the check reports on
every object of every context: nothing unless the object is a service, and for a service with a
selector, nothing exactly when some object of the context (the service itself included) in the
same namespace has a pod template that carries the selector, and otherwise one report that lists
the selector. A text map keeps its keys in increasing order, so the selector is listed in key
order. Adding objects to the
context, or labels to ignore, can only take a report away.
-/

namespace ManifestLint

open Yaml

/-! ## Text maps -/

namespace Dict

theorem toList_foldl_erase (ignored : List String) (d : Dict) :
    (ignored.foldl erase d).toList = d.toList.filter (fun e => e.1 ∉ ignored) := by
  induction ignored generalizing d with
  | nil => simp
  | cons l ls ih =>
    rw [List.foldl_cons, ih]
    simp only [toList, erase, List.filter_filter, List.mem_cons, not_or]
    congr 1
    funext e
    by_cases he : e.1 = l <;> simp [he]

theorem isSubmap_iff {d e : Dict} :
    d.isSubmap e = true ↔ ∀ k v, (k, v) ∈ d.toList → e.get? k = some v := by
  simp [isSubmap, toList]

end Dict

/-! ## Selectors read from a manifest -/

namespace ManifestValue

theorem eq_service_of_body {kind : String} {v : Value} {s : Service}
    (h : body kind v = .service s) : s = service v (metadata v) := by
  unfold body at h
  split at h
  · cases h
  · cases h
  · cases h
    rfl
  · split at h <;> cases h
  · cases h

end ManifestValue

/-! ## The check -/

/-- Some object of the context in a namespace has a pod template whose labels carry every entry of
a selector. -/
def Context.HasMatchingPods (ctx : Context) (ns : Option String)
    (selector : List (String × String)) : Prop :=
  ∃ o ∈ ctx.objects, o.namespace? = ns ∧
    ∃ t, o.template? = some t ∧ ∀ k v, (k, v) ∈ selector → t.labels.get? k = some v

/-- The entries of a selector that the check looks for: those of keys not ignored. -/
def selectorLess (selector : Dict) (ignored : List String) : List (String × String) :=
  selector.toList.filter (fun e => e.1 ∉ ignored)

theorem mem_selectorLess_of_subset {selector : Dict} {ignored ignored' : List String}
    (h : ∀ l ∈ ignored, l ∈ ignored') {e : String × String}
    (he : e ∈ selectorLess selector ignored') : e ∈ selectorLess selector ignored := by
  simp only [selectorLess, List.mem_filter, decide_eq_true_eq] at he ⊢
  exact ⟨he.1, fun hmem => he.2 (h _ hmem)⟩

/-- The report on a service whose selector no pod template carries. -/
def noPodsMessage (selector : List (String × String)) : String :=
  "no pods found matching service labels (" ++
    ",".intercalate (selector.map fun (k, v) => k ++ "=" ++ v) ++ ")"

instance (ctx : Context) (ns : Option String) (selector : List (String × String)) :
    Decidable (ctx.HasMatchingPods ns selector) :=
  decidable_of_iff (ctx.objects.any fun o => o.namespace? == ns &&
      o.template?.any fun t => selector.all fun e => t.labels.get? e.1 == some e.2)
    (by simp [Context.HasMatchingPods, Option.any_eq_true, List.all_eq_true])

theorem hasMatchingPods_iff_any (ctx : Context) (ns : Option String) (selector : Dict) :
    ctx.objects.any (fun other => other.namespace? == ns &&
        (other.template?.any fun t => selector.isSubmap t.labels)) = true ↔
      ctx.HasMatchingPods ns selector.toList := by
  simp only [List.any_eq_true, Bool.and_eq_true, beq_iff_eq, Option.any_eq_true,
    Dict.isSubmap_iff, Context.HasMatchingPods]

theorem Context.HasMatchingPods.mono {ctx ctx' : Context} {ns : Option String}
    {sel sel' : List (String × String)} (h : ctx.HasMatchingPods ns sel)
    (hctx : ∀ o ∈ ctx.objects, o ∈ ctx'.objects) (hsel : ∀ e ∈ sel', e ∈ sel) :
    ctx'.HasMatchingPods ns sel' := by
  obtain ⟨o, ho, hns, t, ht, hlabels⟩ := h
  exact ⟨o, hctx o ho, hns, t, ht, fun k v hkv => hlabels k v (hsel _ hkv)⟩

namespace Rule

variable {ignored : List String} {ctx : Context} {o : Object} {s : Service}

theorem check_danglingService_of_not_service (h : ∀ s, o.body ≠ .service s) :
    (danglingService ignored).check ctx o = [] := by
  simp only [check]

theorem check_danglingService_externalName (h : o.body = .service s)
    (hext : s.serviceType = some "ExternalName") : (danglingService ignored).check ctx o = [] := by
  simp [check, h, hext]

theorem check_danglingService_no_selector (h : o.body = .service s)
    (hext : s.serviceType ≠ some "ExternalName") (hsel : s.selector.toList = []) :
    (danglingService ignored).check ctx o = ["service has no selector specified"] := by
  have hempty : s.selector.isEmpty = true := by simpa [Dict.isEmpty, Dict.toList] using hsel
  simp [check, h, hext, hempty]

theorem check_danglingService_selector (h : o.body = .service s)
    (hext : s.serviceType ≠ some "ExternalName") (hsel : s.selector.toList ≠ []) :
    (danglingService ignored).check ctx o =
      if ctx.HasMatchingPods o.namespace? (selectorLess s.selector ignored) then []
      else [noPodsMessage (selectorLess s.selector ignored)] := by
  have hempty : s.selector.isEmpty = false := by simpa [Dict.isEmpty, Dict.toList] using hsel
  have hfound := hasMatchingPods_iff_any ctx o.namespace? (ignored.foldl Dict.erase s.selector)
  rw [Dict.toList_foldl_erase] at hfound
  simp only [check, h, hext, hempty, beq_iff_eq, Bool.false_eq_true, if_false]
  by_cases hpods : ctx.HasMatchingPods o.namespace? (selectorLess s.selector ignored)
  · simp only [hpods, hfound.2 hpods, ↓reduceIte]
  · simp only [hpods, mt hfound.1 hpods, Bool.false_eq_true, ↓reduceIte]
    rw [renderSelector, Dict.toList_foldl_erase]
    rfl

theorem check_danglingService_mono {ctx' : Context} {ignored' : List String}
    (hctx : ∀ x ∈ ctx.objects, x ∈ ctx'.objects) (hign : ∀ l ∈ ignored, l ∈ ignored')
    (h : (danglingService ignored).check ctx o = []) :
    (danglingService ignored').check ctx' o = [] := by
  by_cases hsvc : ∃ s, o.body = .service s
  · obtain ⟨s, hs⟩ := hsvc
    by_cases hext : s.serviceType = some "ExternalName"
    · exact check_danglingService_externalName hs hext
    by_cases hsel : s.selector.toList = []
    · simp [check_danglingService_no_selector hs hext hsel] at h
    rw [check_danglingService_selector hs hext hsel] at h ⊢
    split_ifs at h with hpods
    rw [if_pos (hpods.mono hctx fun e => mem_selectorLess_of_subset hign)]
  · exact check_danglingService_of_not_service (fun s hs => hsvc ⟨s, hs⟩)

end Rule

theorem pairwise_selectorLess (selector : Dict) (ignored : List String) :
    (selectorLess selector ignored).Pairwise (·.1 < ·.1) :=
  selector.sorted.filter _

/-- What the dangling-service check reports on an object of a context: nothing on an object that
is not a service or on an `ExternalName` service; that a service has no selector; and otherwise
nothing exactly when some object of the context in the service's namespace has a pod template
whose labels carry the selector less the ignored labels, and one report listing that selector, in
key order, when none has. Reports only go away as the context grows
or more labels are ignored. -/
theorem danglingService_reports_unmatched_services (ignored : List String) :
    Template.danglingService.instantiate (.danglingService ignored) =
      .ok (.danglingService ignored) ∧
    (∀ ctx o, (∀ s, o.body ≠ .service s) → (Rule.danglingService ignored).check ctx o = []) ∧
    (∀ ctx o s, o.body = .service s →
      (s.serviceType = some "ExternalName" → (Rule.danglingService ignored).check ctx o = []) ∧
      (s.serviceType ≠ some "ExternalName" → s.selector.toList = [] →
        (Rule.danglingService ignored).check ctx o = ["service has no selector specified"]) ∧
      (s.serviceType ≠ some "ExternalName" → s.selector.toList ≠ [] →
        ((Rule.danglingService ignored).check ctx o = [] ↔
          ctx.HasMatchingPods o.namespace? (selectorLess s.selector ignored)) ∧
        (¬ctx.HasMatchingPods o.namespace? (selectorLess s.selector ignored) →
          (Rule.danglingService ignored).check ctx o =
            [noPodsMessage (selectorLess s.selector ignored)])) ∧
      (selectorLess s.selector ignored).Pairwise (·.1 < ·.1)) ∧
    ∀ ctx ctx' ignored' o, (∀ x ∈ ctx.objects, x ∈ ctx'.objects) →
      (∀ l ∈ ignored, l ∈ ignored') → (Rule.danglingService ignored).check ctx o = [] →
      (Rule.danglingService ignored').check ctx' o = [] := by
  refine ⟨rfl, fun ctx o h => Rule.check_danglingService_of_not_service h,
    fun ctx o s hs => ⟨Rule.check_danglingService_externalName hs,
      Rule.check_danglingService_no_selector hs, fun hext hsel => ?_,
      pairwise_selectorLess s.selector ignored⟩,
    fun ctx ctx' ignored' o hctx hign h => Rule.check_danglingService_mono hctx hign h⟩
  rw [Rule.check_danglingService_selector hs hext hsel]
  refine ⟨⟨fun h => ?_, fun hpods => if_pos hpods⟩, fun hpods => if_neg hpods⟩
  by_contra hpods
  rw [if_neg hpods] at h
  exact List.cons_ne_nil _ _ h

theorem unmatched_service_reported :
    let web : Object :=
      ⟨"<stdin>", 1, "v1", .service ⟨{ name := "web" }, ⟨[("app", "web"), ("tier", "frontend")], by decide⟩, none⟩⟩
    ¬({ objects := [web] } : Context).HasMatchingPods web.namespace? [("app", "web")] ∧
      (Rule.danglingService ["tier"]).check { objects := [web] } web =
        ["no pods found matching service labels (app=web)"] := by
  intro web
  have hpods : ¬({ objects := [web] } : Context).HasMatchingPods web.namespace?
      (selectorLess ⟨[("app", "web"), ("tier", "frontend")], by decide⟩ ["tier"]) := by decide
  refine ⟨hpods, ?_⟩
  rw [(((danglingService_reports_unmatched_services ["tier"]).2.2.1 _ web _ rfl).2.2.1
    (by decide) (by decide)).2 hpods]
  decide

end ManifestLint
