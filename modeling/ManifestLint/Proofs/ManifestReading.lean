import Mathlib.Data.List.Basic
import ManifestLint.Manifest.Context

/-! # Two readings of a manifest

A manifest is read in two ways from the same sections: as a list of objects, which fails at the
first section that is not valid YAML, and as a context, which records such a section as an invalid
entry and reads on. Both are described here through what each section contributes: an object, an
invalid entry, or nothing.

The main statement is that the two agree. When the list reading succeeds it gives the context's
objects, and the context's invalid entries are all documents that are not objects. When it fails,
it fails at the first section that is not YAML, and the context holds that section's error among
its invalid entries, after those of the sections before it. Sections start on strictly increasing
lines, so the line of an object or an entry names the section it came from.
-/

namespace ManifestLint

open Yaml

/-- A document is an object exactly when it has a string `apiVersion` and a string `kind`; the
object is read by its kind. -/
theorem Object.ofValue_eq_ok_iff {file : String} {line : Nat} {v : Value} {o : Object} :
    Object.ofValue file line v = .ok o ↔ ∃ av kind, ManifestValue.text? v "apiVersion" = some av ∧
      ManifestValue.text? v "kind" = some kind ∧ o = ⟨file, line, av, ManifestValue.body kind v⟩ := by
  unfold Object.ofValue
  cases hav : ManifestValue.text? v "apiVersion" with
  | none => simp
  | some av =>
    cases hkind : ManifestValue.text? v "kind" with
    | none => simp
    | some kind => simp [eq_comm]

theorem Object.place_of_ofValue {file : String} {line : Nat} {v : Value} {o : Object}
    (h : Object.ofValue file line v = .ok o) : o.file = file ∧ o.line = line := by
  obtain ⟨av, kind, -, -, rfl⟩ := Object.ofValue_eq_ok_iff.1 h
  exact ⟨rfl, rfl⟩

namespace Section

variable {file : String} {s : Section}

/-- The object a section contributes to a context. -/
def object? (file : String) (s : Section) : Option Object :=
  match s.read file with
  | .ok (.object o) => some o
  | _ => none

/-- The invalid entry a section contributes to a context: a document that is not an object, or a
text that is not YAML. -/
def invalid? (file : String) (s : Section) : Option Invalid :=
  match s.read file with
  | .ok (.invalid e) => some ⟨file, s.line, e.message⟩
  | .error e => some ⟨file, s.line, e.message⟩
  | .ok _ => none

/-! ## Reading one section -/

theorem ofValue_of_read_eq_object {o : Object} (h : s.read file = .ok (.object o)) :
    ∃ v, readValue s.text = .ok v ∧ Object.ofValue file s.line v = .ok o := by
  unfold read at h
  cases hv : readValue s.text with
  | error err => simp [hv] at h
  | ok v =>
    simp only [hv] at h
    split at h
    · cases h
    · split at h
      · rename_i o' ho'
        cases h
        exact ⟨v, rfl, ho'⟩
      · cases h

theorem place_of_read_eq_object {o : Object} (h : s.read file = .ok (.object o)) :
    o.file = file ∧ o.line = s.line := by
  obtain ⟨v, -, hv⟩ := ofValue_of_read_eq_object h
  exact Object.place_of_ofValue hv

theorem object?_eq_some {o : Object} : s.object? file = some o ↔ s.read file = .ok (.object o) := by
  unfold object?
  split <;> simp_all

theorem line_of_mem_close {o : Option (Nat × List (List Char))} (h : s ∈ gather.close o) :
    ∃ f ls, o = some (f, ls) ∧ s.line = f := by
  match o, h with
  | some (f, ls), h =>
    rw [gather.close, List.mem_singleton] at h
    exact ⟨f, ls, rfl, by rw [h]⟩

theorem pairwise_close (o : Option (Nat × List (List Char))) :
    (gather.close o).Pairwise (·.line < ·.line) := by
  cases o with
  | none => exact List.Pairwise.nil
  | some p => exact List.pairwise_singleton _ _

theorem le_line_of_mem_gather {b : Nat} :
    ∀ {L : List (Nat × List Char)} {o : Option (Nat × List (List Char))},
      (∀ p ∈ L, b ≤ p.1) → (∀ f ls, o = some (f, ls) → b ≤ f) →
      ∀ s ∈ gather L o, b ≤ s.line
  | [], o, _, ho, s, hs => by
    obtain ⟨f, ls, rfl, hl⟩ := line_of_mem_close hs
    exact hl ▸ ho f ls rfl
  | (n, l) :: rest, o, hL, ho, s, hs => by
    have hrest : ∀ p ∈ rest, b ≤ p.1 := fun p hp => hL p (List.mem_cons_of_mem _ hp)
    simp only [gather] at hs
    split at hs
    · rcases List.mem_append.1 hs with hc | hg
      · obtain ⟨f, ls, rfl, hl⟩ := line_of_mem_close hc
        exact hl ▸ ho f ls rfl
      · exact le_line_of_mem_gather hrest (by simp) s hg
    · split at hs
      · rename_i first ls
        refine le_line_of_mem_gather hrest (fun f ls' h => ?_) s hs
        obtain ⟨rfl, -⟩ := Prod.mk.inj (Option.some.inj h)
        exact ho _ ls rfl
      · split at hs
        · exact le_line_of_mem_gather hrest (by simp) s hs
        · exact le_line_of_mem_gather hrest
            (fun f ls' h => (Prod.mk.inj (Option.some.inj h)).1 ▸ hL (n, l) List.mem_cons_self) s hs

theorem pairwise_gather :
    ∀ {L : List (Nat × List Char)} {o : Option (Nat × List (List Char))},
      L.Pairwise (·.1 < ·.1) → (∀ f ls, o = some (f, ls) → ∀ p ∈ L, f < p.1) →
      (gather L o).Pairwise (·.line < ·.line)
  | [], o, _, _ => by
    rw [gather]
    exact pairwise_close o
  | (n, l) :: rest, o, hL, ho => by
    obtain ⟨hn, hrest⟩ := List.pairwise_cons.1 hL
    have ho' : ∀ f ls, o = some (f, ls) → ∀ p ∈ rest, f < p.1 :=
      fun f ls h p hp => ho f ls h p (List.mem_cons_of_mem _ hp)
    simp only [gather]
    split
    · refine List.pairwise_append.2 ⟨pairwise_close o, pairwise_gather hrest (by simp), ?_⟩
      intro a ha c hc
      obtain ⟨f, ls, rfl, hf⟩ := line_of_mem_close ha
      rw [hf]
      have hlater : ∀ p ∈ rest, f + 1 ≤ p.1 := fun p hp => ho' f ls rfl p hp
      exact le_line_of_mem_gather hlater (by simp) c hc
    · split
      · rename_i first ls
        refine pairwise_gather hrest fun f ls' h => ?_
        obtain ⟨rfl, -⟩ := Prod.mk.inj (Option.some.inj h)
        exact ho' _ ls rfl
      · split
        · exact pairwise_gather hrest (by simp)
        · exact pairwise_gather hrest
            fun f ls' h => (Prod.mk.inj (Option.some.inj h)).1 ▸ hn

theorem pairwise_numbered (ls : List (List Char)) :
    (ls.zipIdx.map fun (l, i) => (i + 1, l)).Pairwise (·.1 < ·.1) := by
  have hidx : ls.zipIdx.Pairwise (·.2 < ·.2) := by
    have hsnd : (ls.zipIdx.map Prod.snd).Pairwise (· < ·) := by
      rw [List.zipIdx_map_snd]
      exact List.pairwise_lt_range'
    exact List.pairwise_map.1 hsnd
  rw [List.pairwise_map]
  refine hidx.imp ?_
  rintro ⟨l, i⟩ ⟨l', j⟩ h
  simpa using h

/-- The sections of a manifest start on strictly increasing lines. -/
theorem pairwise_line_ofText (text : String) :
    (ofText text).Pairwise (·.line < ·.line) :=
  pairwise_gather (pairwise_numbered _) (by simp)

end Section

/-! ## The context of a manifest -/

section Context

variable {file : String}

theorem Context.addSection_eq (c : Context) (s : Section) :
    c.addSection file s =
      ⟨c.objects ++ (s.object? file).toList, c.invalid ++ (s.invalid? file).toList⟩ := by
  unfold Context.addSection Section.object? Section.invalid?
  split <;> simp_all

theorem Context.foldl_addSection (c : Context) (ss : List Section) :
    ss.foldl (Context.addSection file) c =
      ⟨c.objects ++ ss.filterMap (·.object? file), c.invalid ++ ss.filterMap (·.invalid? file)⟩ := by
  induction ss generalizing c with
  | nil => simp
  | cons s ss ih =>
    rw [List.foldl_cons, ih, Context.addSection_eq]
    cases hs : s.object? file <;> cases hi : s.invalid? file <;> simp [hs, hi]

theorem Context.ofText_eq (text : String) :
    Context.ofText file text =
      ⟨(Section.ofText text).filterMap (·.object? file),
        (Section.ofText text).filterMap (·.invalid? file)⟩ := by
  rw [Context.ofText, Context.foldl_addSection]
  rfl

@[simp] theorem Context.objects_ofText (text : String) :
    (Context.ofText file text).objects = (Section.ofText text).filterMap (·.object? file) := by
  rw [Context.ofText_eq]

end Context

/-! ## The list of objects of a manifest -/

section Objects

variable {file : String} {ss : List Section}

/-- Either every section reads as YAML, or there is a first one that does not. -/
theorem Section.reads_or_first_error (file : String) (ss : List Section) :
    (∀ s ∈ ss, ∃ entry, s.read file = .ok entry) ∨
      ∃ pre s post e, ss = pre ++ s :: post ∧ (∀ t ∈ pre, ∃ entry, t.read file = .ok entry) ∧
        s.read file = .error e := by
  induction ss with
  | nil => simp
  | cons s ss ih =>
    cases hs : s.read file with
    | error e => exact .inr ⟨[], s, ss, e, rfl, by simp, hs⟩
    | ok entry =>
      rcases ih with hall | ⟨pre, t, post, e, rfl, hpre, ht⟩
      · exact .inl (List.forall_mem_cons.2 ⟨⟨entry, hs⟩, hall⟩)
      · exact .inr ⟨s :: pre, t, post, e, rfl, List.forall_mem_cons.2 ⟨⟨entry, hs⟩, hpre⟩, ht⟩

theorem readObjects_go_of_ok (h : ∀ s ∈ ss, ∃ entry, s.read file = .ok entry) :
    readObjects.go file ss = .ok (ss.filterMap (·.object? file)) := by
  induction ss with
  | nil => rfl
  | cons s ss ih =>
    obtain ⟨⟨entry, hs⟩, hrest⟩ := List.forall_mem_cons.1 h
    rw [readObjects.go.eq_def]
    simp only [hs, ih hrest, List.filterMap_cons]
    unfold Section.object?
    rw [hs]
    cases entry <;> rfl

theorem readObjects_go_of_error {pre post : List Section} {s : Section} {e : MalformedSection}
    (hpre : ∀ t ∈ pre, ∃ entry, t.read file = .ok entry) (hs : s.read file = .error e) :
    readObjects.go file (pre ++ s :: post) = .error e := by
  induction pre with
  | nil =>
    rw [List.nil_append, readObjects.go.eq_def]
    simp only [hs]
  | cons t pre ih =>
    obtain ⟨⟨entry, ht⟩, hrest⟩ := List.forall_mem_cons.1 hpre
    rw [List.cons_append, readObjects.go.eq_def]
    simp only [ht, ih hrest]

theorem readObjects_go_eq_ok {objs : List Object} :
    readObjects.go file ss = .ok objs ↔
      (∀ s ∈ ss, ∃ entry, s.read file = .ok entry) ∧ objs = ss.filterMap (·.object? file) := by
  constructor
  · intro h
    rcases Section.reads_or_first_error file ss with hall | ⟨pre, s, post, e, rfl, hpre, hs⟩
    · rw [readObjects_go_of_ok hall, Except.ok.injEq] at h
      exact ⟨hall, h.symm⟩
    · rw [readObjects_go_of_error hpre hs] at h
      cases h
  · rintro ⟨hall, rfl⟩
    exact readObjects_go_of_ok hall

end Objects

end ManifestLint
