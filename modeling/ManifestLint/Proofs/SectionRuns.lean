import Mathlib
import ManifestLint.Proofs.ManifestReading

/-! # Sections as runs of lines

The separator lines of a manifest cut its numbered lines into maximal runs of consecutive lines
that are not separators; two separators in a row, or one at either end, bound an empty run. The
sections can be read off the runs one at a time: a run holds a section exactly when it has a
content line (one that is neither blank nor a comment), and the section starts at that line and
takes every later line of the run. `Section.gather` reads the lines one by one instead, keeping
open the section it is in; `gather_openOf` says that it reads the same sections.

The main statement (`sections_are_content_runs`) is that the sections of a manifest are those of
its runs. Sections start on strictly increasing lines. Every line that is not a separator lies in
exactly one run, and it is in that run's section exactly when a content line of the run comes no
later.
-/

namespace ManifestLint

namespace Section

/-- The lines of a text with their numbers, counting from one. -/
def numberedLines (s : String) : List (Nat × List Char) :=
  (lines s).zipIdx.map fun (l, i) => (i + 1, l)

/-- The maximal runs of consecutive lines of a text that are not separators, in order. -/
def runs (s : String) : List (List (Nat × List Char)) :=
  (numberedLines s).splitOnP (isSeparator ·.2)

/-- The lines of a run from its first content line on. -/
def content (run : List (Nat × List Char)) : List (Nat × List Char) :=
  run.dropWhile (isFiller ·.2)

/-- The section made of numbered lines: it starts on the first, and its text joins them all. -/
def ofLines : List (Nat × List Char) → Option Section
  | [] => none
  | (n, l) :: rest => some ⟨n, String.intercalate "\n" (((n, l) :: rest).map (String.ofList ·.2))⟩

/-- What `gather` holds open after the lines of a run: the number of the run's first content line
and the lines from it on, reversed. -/
def openOf (run : List (Nat × List Char)) : Option (Nat × List (List Char)) :=
  match content run with
  | [] => none
  | (n, l) :: rest => some (n, (l :: rest.map Prod.snd).reverse)

theorem ofText_eq_gather (s : String) : ofText s = gather (numberedLines s) none := rfl

/-! ## Reading a run line by line -/

theorem close_openOf (run : List (Nat × List Char)) :
    gather.close (openOf run) = (ofLines (content run)).toList := by
  unfold openOf
  split
  · rename_i h
    rw [h]
    rfl
  · rename_i n l rest h
    simp [h, gather.close, ofLines, Function.comp_def]

theorem openOf_append_singleton (run : List (Nat × List Char)) (n : Nat) (l : List Char) :
    openOf (run ++ [(n, l)]) =
      match openOf run with
      | some (first, ls) => some (first, l :: ls)
      | none => if isFiller l then none else some (n, [l]) := by
  unfold openOf content
  rw [List.dropWhile_append]
  cases h : run.dropWhile (isFiller ·.2) with
  | nil => cases hl : isFiller l <;> simp [hl]
  | cons p rest => simp

theorem openOf_nil : openOf [] = none := rfl

theorem gather_openOf (L run : List (Nat × List Char)) :
    gather L (openOf run) =
      ((L.splitOnP (isSeparator ·.2)).modifyHead (run ++ ·)).filterMap
        fun r => ofLines (content r) := by
  induction L generalizing run with
  | nil =>
    rw [gather, close_openOf, List.splitOnP_nil, List.modifyHead_cons, List.append_nil]
    cases h : ofLines (content run) <;> simp [h]
  | cons x L ih =>
    obtain ⟨n, l⟩ := x
    obtain ⟨r, rs, hsplit⟩ := List.exists_cons_of_ne_nil (List.splitOnP_ne_nil (isSeparator ·.2) L)
    have hrest := ih []
    rw [openOf_nil, hsplit] at hrest
    rw [List.splitOnP_cons_eq_if_modifyHead, hsplit]
    by_cases hsep : isSeparator l = true
    · simp only [gather, hsep, if_true, close_openOf, hrest, List.modifyHead_cons, List.nil_append,
        List.append_nil]
      cases h : ofLines (content run) <;> simp [List.filterMap_cons, h]
    · have hnext := ih (run ++ [(n, l)])
      rw [hsplit, openOf_append_singleton] at hnext
      simp only [hsep, Bool.false_eq_true, if_false, List.modifyHead_cons, List.append_assoc,
        List.singleton_append] at hnext ⊢
      rw [← hnext]
      simp only [gather, hsep, Bool.false_eq_true, if_false]
      cases openOf run with
      | some p => rfl
      | none => cases isFiller l <;> rfl

/-- The sections of a manifest are those its runs hold, in order. -/
theorem ofText_eq_filterMap_runs (s : String) :
    ofText s = (runs s).filterMap fun r => ofLines (content r) := by
  have h := gather_openOf (numberedLines s) []
  rw [openOf_nil] at h
  rw [ofText_eq_gather, h, runs]
  obtain ⟨r, rs, hsplit⟩ :=
    List.exists_cons_of_ne_nil (List.splitOnP_ne_nil (isSeparator ·.2) (numberedLines s))
  rw [hsplit]
  rfl

/-! ## Runs -/

theorem not_of_mem_splitOnP {α : Type} {p : α → Bool} :
    ∀ {xs r : List α}, r ∈ xs.splitOnP p → ∀ x ∈ r, p x = false
  | [], r, hr => by
    rw [List.splitOnP_nil, List.mem_singleton] at hr
    subst hr
    simp
  | y :: ys, r, hr => by
    rw [List.splitOnP_cons_eq_if_modifyHead] at hr
    split_ifs at hr with hy
    · rcases List.mem_cons.1 hr with rfl | hr
      · simp
      · exact not_of_mem_splitOnP hr
    · obtain ⟨r', rs, hsplit⟩ := List.exists_cons_of_ne_nil (List.splitOnP_ne_nil p ys)
      rw [hsplit, List.modifyHead_cons] at hr
      rcases List.mem_cons.1 hr with rfl | hr
      · intro x hx
        rcases List.mem_cons.1 hx with rfl | hx
        · simpa using hy
        · exact not_of_mem_splitOnP (hsplit ▸ List.mem_cons_self) x hx
      · exact not_of_mem_splitOnP (hsplit ▸ List.mem_cons_of_mem _ hr)

theorem flatten_splitOnP {α : Type} (p : α → Bool) (xs : List α) :
    (xs.splitOnP p).flatten = xs.filter fun x => !p x := by
  induction xs with
  | nil => simp
  | cons x xs ih =>
    rw [List.splitOnP_cons_eq_if_modifyHead]
    obtain ⟨r, rs, hsplit⟩ := List.exists_cons_of_ne_nil (List.splitOnP_ne_nil p xs)
    by_cases hx : p x = true
    · simp [hx, ih]
    · rw [hsplit, List.flatten_cons] at ih
      rw [hsplit]
      simp [hx, ih]

theorem pairwise_numberedLines (s : String) : (numberedLines s).Pairwise (·.1 < ·.1) :=
  pairwise_numbered (lines s)

theorem flatten_runs (s : String) :
    (runs s).flatten = (numberedLines s).filter fun p => !isSeparator p.2 :=
  flatten_splitOnP _ _

theorem pairwise_flatten_runs (s : String) : (runs s).flatten.Pairwise (·.1 < ·.1) := by
  rw [flatten_runs]
  exact (pairwise_numberedLines s).filter _

theorem pairwise_of_mem_runs {s : String} {r : List (Nat × List Char)} (hr : r ∈ runs s) :
    r.Pairwise (·.1 < ·.1) :=
  (List.pairwise_flatten.1 (pairwise_flatten_runs s)).1 r hr

/-- A line that is not a separator lies in exactly one run. -/
theorem existsUnique_mem_runs {s : String} {p : Nat × List Char} (hp : p ∈ numberedLines s)
    (hsep : isSeparator p.2 = false) : ∃! r, r ∈ runs s ∧ p ∈ r := by
  have hflat : p ∈ (runs s).flatten := by
    rw [flatten_runs]
    exact List.mem_filter.2 ⟨hp, by simp [hsep]⟩
  obtain ⟨r, hr, hpr⟩ := List.mem_flatten.1 hflat
  refine ⟨r, ⟨hr, hpr⟩, fun r' ⟨hr', hpr'⟩ => ?_⟩
  have hnodup : (runs s).flatten.Nodup :=
    (pairwise_flatten_runs s).imp fun h heq => (heq ▸ h).false
  have hdisjoint := (List.nodup_flatten.1 hnodup).2
  have : Std.Symm (List.Disjoint (α := Nat × List Char)) := ⟨fun _ _ h => h.symm⟩
  by_contra hne
  exact List.disjoint_left.1 (hdisjoint.forall hr' hr hne) hpr' hpr

theorem mem_dropWhile_iff {f : Nat × List Char → Bool} :
    ∀ {r : List (Nat × List Char)}, r.Pairwise (·.1 < ·.1) → ∀ {p}, p ∈ r →
      (p ∈ r.dropWhile f ↔ ∃ q ∈ r, q.1 ≤ p.1 ∧ f q = false)
  | [], _, _, hp => absurd hp List.not_mem_nil
  | x :: xs, hr, p, hp => by
    obtain ⟨hx, hxs⟩ := List.pairwise_cons.1 hr
    rw [List.dropWhile_cons]
    by_cases hfx : f x = true
    · rw [if_pos hfx]
      rcases List.mem_cons.1 hp with rfl | hp
      · have hnot : p ∉ xs := fun h => lt_irrefl _ (hx p h)
        refine ⟨fun h => absurd (List.dropWhile_subset f h) hnot, ?_⟩
        rintro ⟨q, hq, hle, hfq⟩
        rcases List.mem_cons.1 hq with rfl | hq
        · simp [hfx] at hfq
        · exact absurd (hx q hq) (not_lt.2 hle)
      · rw [mem_dropWhile_iff hxs hp]
        constructor
        · rintro ⟨q, hq, hle, hfq⟩
          exact ⟨q, List.mem_cons_of_mem _ hq, hle, hfq⟩
        · rintro ⟨q, hq, hle, hfq⟩
          rcases List.mem_cons.1 hq with rfl | hq
          · simp [hfx] at hfq
          · exact ⟨q, hq, hle, hfq⟩
    · rw [if_neg hfx]
      refine ⟨fun _ => ⟨x, List.mem_cons_self, ?_, by simpa using hfx⟩, fun _ => hp⟩
      rcases List.mem_cons.1 hp with rfl | hp
      · exact le_rfl
      · exact (hx p hp).le

end Section

/-- The sections of a manifest are the content of its runs. The runs hold no separator, and with
the separators between them they give back every numbered line, so they are the maximal runs of
lines that are not separators; each line that is not a separator lies in exactly one. Each run
that has a content line holds one section, which starts on that line and joins it and every later
line of the run by line feeds; runs of blank and comment lines hold none. A line of a run is in
its section exactly when a content line of the run comes no later. Sections come in source order,
on strictly increasing lines. -/
theorem sections_are_content_runs (text : String) :
    (∀ r ∈ Section.runs text, ∀ p ∈ r, Section.isSeparator p.2 = false) ∧
    ((Section.runs text).zipWith (· ++ ·)
        (((Section.numberedLines text).filter (Section.isSeparator ·.2)).map (fun p => [p]) ++
          [[]])).flatten = Section.numberedLines text ∧
    (∀ p ∈ Section.numberedLines text, Section.isSeparator p.2 = false →
      ∃! r, r ∈ Section.runs text ∧ p ∈ r) ∧
    Section.ofText text = (Section.runs text).filterMap (fun r => Section.ofLines (Section.content r)) ∧
    (∀ r ∈ Section.runs text, ∀ p ∈ r,
      p ∈ Section.content r ↔ ∃ q ∈ r, q.1 ≤ p.1 ∧ Section.isFiller q.2 = false) ∧
    (Section.ofText text).Pairwise (·.line < ·.line) :=
  ⟨fun _ hr => Section.not_of_mem_splitOnP hr, List.splitOnP_spec _,
    fun _ hp hsep => Section.existsUnique_mem_runs hp hsep, Section.ofText_eq_filterMap_runs text,
    fun _ hr _ hp => Section.mem_dropWhile_iff (Section.pairwise_of_mem_runs hr) hp,
    Section.pairwise_line_ofText text⟩

example : Section.ofText "a: 1\n---\n# note\nb: 2" = [⟨1, "a: 1"⟩, ⟨4, "b: 2"⟩] := by decide

end ManifestLint
