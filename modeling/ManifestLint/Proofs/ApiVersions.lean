import Mathlib
import ManifestLint.Proofs.TypedReadings

/-! # Writing an `apiVersion` back

An identity keeps as its group what stands before the last slash of the `apiVersion`, and as its
version what stands after it; an `apiVersion` without a slash is a version of the core group, whose
group is empty. Written back, group and version are joined by a slash unless the group is empty.

So the `apiVersion` written back, and the identity as reports print it, reproduce the `apiVersion`
read, with one exception (`ofApiVersion_written_back`): a slash followed by a text without slashes
also has the empty group, and is written back without its slash (`core_slash_dropped`).
-/

namespace ManifestLint.Identity

theorem splitLast_append_cons {sep : Char} {after : List Char} (h : sep ∉ after)
    (before : List Char) : splitLast sep (before ++ sep :: after) = some (before, after) := by
  have hkeep : ∀ c ∈ after.reverse, (c != sep) = true := by
    intro c hc
    have hne : c ≠ sep := fun hcs => h (hcs ▸ List.mem_reverse.1 hc)
    simpa using hne
  simp [splitLast, List.span_eq_takeWhile_dropWhile, List.takeWhile_append_of_pos hkeep,
    List.dropWhile_append_of_pos hkeep]

theorem eq_of_splitLast_eq_some {sep : Char} {cs before after : List Char}
    (h : splitLast sep cs = some (before, after)) : cs = before ++ sep :: after ∧ sep ∉ after := by
  unfold splitLast at h
  rw [List.span_eq_takeWhile_dropWhile] at h
  split at h
  · cases h
  · rename_i after' c before' hsplit
    obtain ⟨rfl, rfl⟩ : before'.reverse = before ∧ after'.reverse = after := by simpa using h
    simp only [Prod.mk.injEq] at hsplit
    obtain ⟨htake, hdrop⟩ := hsplit
    have hc : c = sep := by
      have hstop := List.head_dropWhile_not (· != sep) (l := cs.reverse) (by simp [hdrop])
      simpa [hdrop] using hstop
    subst hc
    constructor
    · have hrev := congrArg List.reverse
        (List.takeWhile_append_dropWhile (p := (· != c)) (l := cs.reverse))
      simpa [htake, hdrop] using hrev.symm
    · intro hmem
      have hkept : c ∈ List.takeWhile (· != c) cs.reverse := by
        rw [htake]
        exact List.mem_reverse.1 hmem
      simpa using List.mem_takeWhile_imp hkept

theorem apiVersion_ofApiVersion {a : String} (k : String)
    (h : ¬∃ v, '/' ∉ v.toList ∧ a = "/" ++ v) : (ofApiVersion a k).apiVersion = a := by
  unfold ofApiVersion
  split
  · rename_i g v hsplit
    obtain ⟨ha, hv⟩ := eq_of_splitLast_eq_some hsplit
    cases g with
    | nil =>
      refine absurd ⟨String.ofList v, by simpa using hv, ?_⟩ h
      apply String.ext
      simp [ha]
    | cons c g =>
      apply String.ext
      simp [apiVersion, ha]
  · simp [apiVersion]

theorem apiVersion_ofApiVersion_slash {v : String} (k : String) (h : '/' ∉ v.toList) :
    (ofApiVersion ("/" ++ v) k).apiVersion = v := by
  have hsplit : splitLast '/' ('/' :: v.toList) = some ([], v.toList) :=
    splitLast_append_cons h []
  simp [ofApiVersion, hsplit, apiVersion]

theorem slash_append_ne (v : String) : "/" ++ v ≠ v := by
  intro h
  have hlist := congrArg String.toList h
  simp at hlist

/-- The `apiVersion` written back, and the identity as reports print it, are those read exactly
when the `apiVersion` is not a slash followed by a text without slashes; such a one is written
back without its slash. -/
theorem ofApiVersion_written_back (a k : String) :
    ((ofApiVersion a k).apiVersion = a ↔ ¬∃ v, '/' ∉ v.toList ∧ a = "/" ++ v) ∧
    ((ofApiVersion a k).render = a ++ ", Kind=" ++ k ↔ ¬∃ v, '/' ∉ v.toList ∧ a = "/" ++ v) ∧
    ∀ v, '/' ∉ v.toList → a = "/" ++ v →
      (ofApiVersion a k).apiVersion = v ∧ (ofApiVersion a k).render = v ++ ", Kind=" ++ k := by
  have hslash : ∀ v, '/' ∉ v.toList → a = "/" ++ v → (ofApiVersion a k).apiVersion = v := by
    rintro v hv rfl
    exact apiVersion_ofApiVersion_slash k hv
  have hback : (ofApiVersion a k).apiVersion = a ↔ ¬∃ v, '/' ∉ v.toList ∧ a = "/" ++ v := by
    constructor
    · rintro hback ⟨v, hv, rfl⟩
      exact slash_append_ne v (hback.symm.trans (hslash v hv rfl))
    · exact apiVersion_ofApiVersion k
  have hrender : (ofApiVersion a k).render = (ofApiVersion a k).apiVersion ++ ", Kind=" ++ k := by
    simp [render, kind_ofApiVersion]
  refine ⟨hback, ?_, fun v hv ha => ⟨hslash v hv ha, by rw [hrender, hslash v hv ha]⟩⟩
  rw [hrender, String.append_left_inj, String.append_left_inj, hback]

theorem core_slash_written_back :
    '/' ∉ "v1".toList ∧ "/v1" = "/" ++ "v1" ∧
      (ofApiVersion "/v1" "Pod").render = "v1" ++ ", Kind=" ++ "Pod" :=
  ⟨by decide, rfl, ((ofApiVersion_written_back "/v1" "Pod").2.2 "v1" (by decide) rfl).2⟩

/-- The core group's `apiVersion` written with a leading slash loses it when written back. -/
theorem core_slash_dropped :
    (ofApiVersion "/v1" "Pod").apiVersion ≠ "/v1" ∧
      (ofApiVersion "/v1" "Pod").render ≠ "/v1" ++ ", Kind=" ++ "Pod" := by
  decide

end ManifestLint.Identity
