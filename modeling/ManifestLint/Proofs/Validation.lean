import Mathlib.Tactic.MkIffOfInductiveProp
import ManifestLint.Params.Validate

/-! # Validation reports every violation

A payload conforms to a schema when it is null or a mapping, and at every mapping level that
checking descends into (the payload itself, the value of an object parameter with fields of its
own, and each mapping element of an array whose element type has fields) every key is a string
naming a parameter of that level, every value that is not null has its parameter's type and
allowed values, and every required parameter is given a value that is not null.

The violations of a payload are listed level by level: the problems of each entry in the order of
the keys, with the problems found inside an entry's value at that entry's place, and then the
required fields that are missing, in the order of the schema. Checking a payload passes exactly
when it conforms, and otherwise reports its violations, one problem each, in that order.
-/

namespace ManifestLint

open Yaml

section Conformance

mutual

/-- The entries of a mapping conform to a schema: each entry conforms, and each required
parameter is given a value that is not null. -/
@[mk_iff]
inductive LevelConforms : List ParamSpec → List (Value × Value) → Prop
  | intro {S : List ParamSpec} {es : List (Value × Value)}
      (entries : ∀ e ∈ es, EntryConforms S e.1 e.2)
      (required : ∀ p ∈ S, p.required = true →
        ∃ v, (Value.mapping es).get? p.name = some v ∧ v.isNull = false) :
      LevelConforms S es

/-- An entry conforms to a schema: its key, seen through tags, is a string naming a parameter,
the first of that name, and its value is null or conforms to that parameter. -/
inductive EntryConforms : List ParamSpec → Value → Value → Prop
  | null {S : List ParamSpec} {k v : Value} {n : String} {p : ParamSpec} :
      k.asString? = some n → ParamSpec.find? S n = some p → v.isNull = true →
        EntryConforms S k v
  | value {S : List ParamSpec} {k v : Value} {n : String} {p : ParamSpec} :
      k.asString? = some n → ParamSpec.find? S n = some p → ValueConforms p v →
        EntryConforms S k v

/-- A value conforms to a parameter. A sequence given to an array parameter may hold anything
when the parameter names no element type, and otherwise elements of that type; any other value
has the parameter's type. -/
inductive ValueConforms : ParamSpec → Value → Prop
  | untypedArray {p : ParamSpec} {items : List Value} :
      p.type = .array → p.elementType = none → ValueConforms p (.sequence items)
  | typedArray {p : ParamSpec} {items : List Value} {t : ParamType} :
      p.type = .array → p.elementType = some t →
        (∀ x ∈ items, TypeConforms t p.choices p.fields x) → ValueConforms p (.sequence items)
  | typed {p : ParamSpec} {v : Value} :
      (∀ items, v = .sequence items → p.type ≠ .array) →
        TypeConforms p.type p.choices p.fields v → ValueConforms p v

/-- A value has a type, with allowed strings and fields: the type accepts it, a string is one of
the allowed values when there are any, and the entries of a mapping conform to the fields when
there are any. -/
inductive TypeConforms : ParamType → List String → List ParamSpec → Value → Prop
  | string {t : ParamType} {choices : List String} {fields : List ParamSpec} {s : String} :
      t.accepts (.string s) = true → (choices = [] ∨ s ∈ choices) →
        TypeConforms t choices fields (.string s)
  | object {t : ParamType} {choices : List String} {es : List (Value × Value)} :
      t.accepts (.mapping es) = true → TypeConforms t choices [] (.mapping es)
  | fields {t : ParamType} {choices : List String} {fields : List ParamSpec}
      {es : List (Value × Value)} :
      t.accepts (.mapping es) = true → LevelConforms fields es →
        TypeConforms t choices fields (.mapping es)
  | scalar {t : ParamType} {choices : List String} {fields : List ParamSpec} {v : Value} :
      t.accepts v = true → (∀ s, v ≠ .string s) → (∀ es, v ≠ .mapping es) →
        TypeConforms t choices fields v

end

/-- A payload conforms to a schema: it is null, standing for the empty mapping, or a mapping
whose entries conform. -/
inductive Conforms (S : List ParamSpec) : Value → Prop
  | null : LevelConforms S [] → Conforms S .null
  | mapping {es : List (Value × Value)} : LevelConforms S es → Conforms S (.mapping es)

end Conformance

section Violations

theorem sizeOf_snd_lt_of_mem {es : List (Value × Value)} {e : Value × Value} (h : e ∈ es) :
    sizeOf e.2 < sizeOf es := by
  have hmem := List.sizeOf_lt_of_mem h
  cases e
  simp only [Prod.mk.sizeOf_spec] at hmem ⊢
  omega

theorem sizeOf_lt_of_mem_zipIdx {items : List Value} {xi : Value × Nat} (h : xi ∈ items.zipIdx) :
    sizeOf xi.1 < sizeOf (Value.sequence items) := by
  have hmem := List.sizeOf_lt_of_mem (List.fst_mem_of_mem_zipIdx h)
  simp only [Value.sequence.sizeOf_spec]
  omega

mutual

/-- The violations at a mapping level: those of each entry in the order of the keys, then the
required parameters that are missing, in the order of the schema. -/
def levelViolations (S : List ParamSpec) (path : String) (es : List (Value × Value)) :
    List ParamProblem :=
  es.flatMap (fun e => entryViolations S path e.1 e.2) ++ missingFields S es path
termination_by (sizeOf es, 2)
decreasing_by exact Prod.Lex.left _ _ (sizeOf_snd_lt_of_mem ‹e ∈ es›)

/-- The violations of one entry, its field named after `path`. -/
def entryViolations (S : List ParamSpec) (path : String) (k v : Value) : List ParamProblem :=
  match k.asString? with
  | none => [.unknownField (path ++ keyName k)]
  | some n =>
    match ParamSpec.find? S n with
    | none => [.unknownField (path ++ n)]
    | some p => if v.isNull then [] else valueViolations p (path ++ n) v
termination_by (sizeOf v, 3)

/-- The violations of the value of a parameter; the element at position `i` of an array is the
field `field[i]`. -/
def valueViolations (p : ParamSpec) (field : String) : Value → List ParamProblem
  | .sequence items =>
    if p.type = .array then
      match p.elementType with
      | none => []
      | some t => items.zipIdx.attach.flatMap fun xi =>
          typeViolations t p.choices p.fields (field ++ "[" ++ toString xi.1.2 ++ "]") xi.1.1
    else typeViolations p.type p.choices p.fields field (.sequence items)
  | v => typeViolations p.type p.choices p.fields field v
termination_by v => (sizeOf v, 2)
decreasing_by
  · exact Prod.Lex.left _ _ (sizeOf_lt_of_mem_zipIdx xi.2)
  · exact Prod.Lex.right _ (by decide)
  · exact Prod.Lex.right _ (by decide)

/-- The violations of a value against a type, its allowed strings and its fields; the fields of
an object are named `field.name`. -/
def typeViolations (t : ParamType) (choices : List String) (fields : List ParamSpec)
    (field : String) (v : Value) : List ParamProblem :=
  if !t.accepts v then [.typeMismatch field t v.typeName]
  else
    match v with
    | .string s =>
      if !choices.isEmpty && !choices.contains s then [.notInChoices field s choices] else []
    | .mapping es => if fields.isEmpty then [] else levelViolations fields (field ++ ".") es
    | _ => []
termination_by (sizeOf v, 1)
decreasing_by
  apply Prod.Lex.left
  simp only [Value.mapping.sizeOf_spec]
  omega

end

/-- The violations of a payload; a payload that is neither null nor a mapping is one. -/
def payloadViolations (S : List ParamSpec) : Value → List ParamProblem
  | .null => levelViolations S "" []
  | .mapping es => levelViolations S "" es
  | v => [.typeMismatch "params" .object v.typeName]

theorem flatMap_attach_val {α β : Type} (l : List α) (f : α → List β) :
    l.attach.flatMap (fun x => f x.1) = l.flatMap f := by
  simp

theorem valueViolations_elements {p : ParamSpec} {field : String} {items : List Value}
    {t : ParamType} (ha : p.type = .array) (he : p.elementType = some t) :
    valueViolations p field (.sequence items) = items.zipIdx.flatMap fun xi =>
      typeViolations t p.choices p.fields (field ++ "[" ++ toString xi.2 ++ "]") xi.1 := by
  rw [valueViolations, if_pos ha, he]
  exact flatMap_attach_val items.zipIdx fun xi =>
    typeViolations t p.choices p.fields (field ++ "[" ++ toString xi.2 ++ "]") xi.1

end Violations

section Characterisations

variable {p : ParamSpec} {t : ParamType} {choices : List String} {fields : List ParamSpec}

theorem valueConforms_elements_iff {items : List Value} (ha : p.type = .array)
    (he : p.elementType = some t) :
    ValueConforms p (.sequence items) ↔ ∀ x ∈ items, TypeConforms t p.choices p.fields x := by
  constructor
  · rintro (⟨-, he'⟩ | ⟨-, he', h⟩ | ⟨hn, -⟩)
    · simp [he] at he'
    · rw [he, Option.some.injEq] at he'
      exact he' ▸ h
    · exact absurd ha (hn items rfl)
  · exact .typedArray ha he

theorem valueConforms_typed_iff {v : Value}
    (hv : ∀ items, v = .sequence items → p.type ≠ .array) :
    ValueConforms p v ↔ TypeConforms p.type p.choices p.fields v := by
  constructor
  · rintro (⟨ha, -⟩ | ⟨ha, -, -⟩ | ⟨-, h⟩)
    · exact absurd ha (hv _ rfl)
    · exact absurd ha (hv _ rfl)
    · exact h
  · exact .typed hv

theorem not_typeConforms_of_accepts_false {v : Value} (ha : t.accepts v = false) :
    ¬TypeConforms t choices fields v := by
  rintro (⟨h, -⟩ | ⟨h⟩ | ⟨h, -⟩ | ⟨h, -, -⟩) <;> simp_all

theorem typeConforms_string_iff {s : String} (ha : t.accepts (.string s) = true) :
    TypeConforms t choices fields (.string s) ↔ choices = [] ∨ s ∈ choices := by
  constructor
  · intro h
    cases h with
    | string _ h => exact h
    | scalar _ hs _ => exact absurd rfl (hs s)
  · exact .string ha

theorem typeConforms_mapping_iff {es : List (Value × Value)} (ha : t.accepts (.mapping es) = true)
    (hf : fields ≠ []) :
    TypeConforms t choices fields (.mapping es) ↔ LevelConforms fields es := by
  constructor
  · intro h
    cases h with
    | object _ => exact absurd rfl hf
    | fields _ h => exact h
    | scalar _ _ hm => exact absurd rfl (hm es)
  · exact .fields ha

theorem conforms_iff (S : List ParamSpec) (P : Value) :
    Conforms S P ↔
      (P = .null ∧ LevelConforms S []) ∨ ∃ es, P = .mapping es ∧ LevelConforms S es := by
  constructor
  · rintro (h | ⟨h⟩)
    · exact .inl ⟨rfl, h⟩
    · exact .inr ⟨_, rfl, h⟩
  · rintro (⟨rfl, h⟩ | ⟨es, rfl, h⟩)
    · exact .null h
    · exact .mapping h

end Characterisations

section Reports

/-! ### The checks report the violations

Checking returns the entries that pass beside the problems; the problems alone are the violations.
One lemma per function says so for one step, given what the functions it calls report, and the
mutual recursion below follows the checks' own. -/

theorem checkMapping_snd (S : List ParamSpec) (path : String) (es : List (Value × Value)) :
    (checkMapping S path es).2 = (checkEntries S path es).2 ++ missingFields S es path := by
  rw [checkMapping]

theorem checkEntries_cons_snd {S : List ParamSpec} {path : String} {k v : Value}
    {rest : List (Value × Value)}
    (ih : ∀ name p, (checkParam p (path ++ name) v).2 = valueViolations p (path ++ name) v) :
    (checkEntries S path ((k, v) :: rest)).2 =
      entryViolations S path k v ++ (checkEntries S path rest).2 := by
  rw [checkEntries, entryViolations]
  rcases hk : k.asString? with _ | n
  · simp
  · rcases hp : ParamSpec.find? S n with _ | p
    · simp [hp]
    · by_cases hv : v.isNull = true
      · simp [hp, hv]
      · rcases hc : checkParam p (path ++ n) v with ⟨_ | w, ps⟩ <;>
          simp [hp, hv, ← ih, hc]

theorem checkElements_cons_snd (t : ParamType) (choices : List String) (fields : List ParamSpec)
    (field : String) (i : Nat) (x : Value) (rest : List Value) :
    (checkElements t choices fields field i (x :: rest)).2 =
      (checkType t choices fields (field ++ "[" ++ toString i ++ "]") x).2 ++
        (checkElements t choices fields field (i + 1) rest).2 := by
  rw [checkElements]

theorem checkType_snd {t : ParamType} {choices : List String} {fields : List ParamSpec}
    {field : String} {v : Value}
    (ih : ∀ es, v = .mapping es →
      (checkMapping fields (field ++ ".") es).2 = levelViolations fields (field ++ ".") es) :
    (checkType t choices fields field v).2 = typeViolations t choices fields field v := by
  by_cases ha : t.accepts v
  · cases v with
    | string s =>
      rw [checkType, typeViolations]
      simp only [ha, Bool.not_true, Bool.false_eq_true, if_false]
      split <;> rfl
    | mapping es =>
      rw [checkType, typeViolations]
      by_cases hf : fields.isEmpty <;> simp [ha, hf, ih es rfl]
    | _ => simp [checkType, typeViolations, ha]
  · cases v <;> simp [checkType, typeViolations, ha]

theorem checkParam_snd {p : ParamSpec} {field : String} {v : Value}
    (ihType : (checkType p.type p.choices p.fields field v).2 =
      typeViolations p.type p.choices p.fields field v)
    (ihElements : ∀ t items, v = .sequence items → p.elementType = some t →
      (checkElements t p.choices p.fields field 0 items).2 = items.zipIdx.flatMap fun xi =>
        typeViolations t p.choices p.fields (field ++ "[" ++ toString xi.2 ++ "]") xi.1) :
    (checkParam p field v).2 = valueViolations p field v := by
  cases v with
  | sequence items =>
    by_cases ha : p.type = .array
    · rcases he : p.elementType with _ | t
      · simp [checkParam, valueViolations, ha, he]
      · rw [valueViolations_elements ha he, ← ihElements t items rfl he]
        simp [checkParam, ha, he]
    · simp [checkParam, valueViolations, ha, ihType]
  | _ => simpa [checkParam, valueViolations] using ihType

mutual

theorem checkMapping_problems (S : List ParamSpec) (path : String) (es : List (Value × Value)) :
    (checkMapping S path es).2 = levelViolations S path es := by
  rw [checkMapping_snd, checkEntries_problems, levelViolations]
termination_by (sizeOf es, 1)

theorem checkEntries_problems (S : List ParamSpec) (path : String) :
    ∀ es : List (Value × Value),
      (checkEntries S path es).2 = es.flatMap fun e => entryViolations S path e.1 e.2
  | [] => by rw [checkEntries]; rfl
  | (k, v) :: rest => by
    rw [checkEntries_cons_snd (fun name p => checkParam_problems p (path ++ name) v),
      checkEntries_problems S path rest, List.flatMap_cons]
termination_by es => (sizeOf es, 0)

theorem checkParam_problems (p : ParamSpec) (field : String) (v : Value) :
    (checkParam p field v).2 = valueViolations p field v :=
  checkParam_snd (checkType_problems p.type p.choices p.fields field v)
    fun t items hv _ => by subst hv; exact checkElements_problems t p.choices p.fields field 0 items
termination_by (sizeOf v, 2)

theorem checkType_problems (t : ParamType) (choices : List String) (fields : List ParamSpec)
    (field : String) (v : Value) :
    (checkType t choices fields field v).2 = typeViolations t choices fields field v :=
  checkType_snd fun es hv => by subst hv; exact checkMapping_problems fields (field ++ ".") es
termination_by (sizeOf v, 1)

theorem checkElements_problems (t : ParamType) (choices : List String) (fields : List ParamSpec)
    (field : String) (i : Nat) :
    ∀ xs : List Value, (checkElements t choices fields field i xs).2 =
      (xs.zipIdx i).flatMap fun xi =>
        typeViolations t choices fields (field ++ "[" ++ toString xi.2 ++ "]") xi.1
  | [] => by rw [checkElements]; rfl
  | x :: rest => by
    rw [checkElements_cons_snd, checkType_problems,
      checkElements_problems t choices fields field (i + 1) rest, List.zipIdx_cons,
      List.flatMap_cons]
termination_by xs => (sizeOf xs, 0)

end

end Reports

section Emptiness

/-! ### No violation is conformance -/

theorem missingFields_eq_nil (S : List ParamSpec) (es : List (Value × Value)) (path : String) :
    missingFields S es path = [] ↔
      ∀ p ∈ S, p.required = true →
        ∃ v, (Value.mapping es).get? p.name = some v ∧ v.isNull = false := by
  simp only [missingFields, List.filterMap_eq_nil_iff, List.mem_filter]
  constructor
  · intro h p hp hr
    have hp' := h p ⟨hp, hr⟩
    rcases hv : (Value.mapping es).get? p.name with _ | v
    · simp [hv] at hp'
    · by_cases hn : v.isNull <;> simp_all
  · rintro h p ⟨hp, hr⟩
    obtain ⟨v, hv, hn⟩ := h p hp hr
    simp [hv, hn]

theorem forall_mem_zipIdx_fst {α : Type} (l : List α) (P : α → Prop) :
    (∀ xi ∈ l.zipIdx, P xi.1) ↔ ∀ x ∈ l, P x := by
  constructor
  · intro h x hx
    obtain ⟨i, hi⟩ := List.mem_iff_getElem?.1 hx
    exact h (x, i) (List.mk_mem_zipIdx_iff_getElem?.2 hi)
  · intro h xi hxi
    exact h xi.1 (List.fst_mem_of_mem_zipIdx hxi)

mutual

theorem levelViolations_eq_nil (S : List ParamSpec) (path : String) (es : List (Value × Value)) :
    levelViolations S path es = [] ↔ LevelConforms S es := by
  rw [levelViolations, List.append_eq_nil_iff, List.flatMap_eq_nil_iff, missingFields_eq_nil,
    levelConforms_iff]
  exact and_congr_left' (forall₂_congr fun e he => entryViolations_eq_nil S path e.1 e.2)
termination_by (sizeOf es, 2)
decreasing_by exact Prod.Lex.left _ _ (sizeOf_snd_lt_of_mem he)

theorem entryViolations_eq_nil (S : List ParamSpec) (path : String) (k v : Value) :
    entryViolations S path k v = [] ↔ EntryConforms S k v := by
  rcases hk : k.asString? with _ | n
  · simp only [entryViolations, hk, reduceCtorEq, false_iff]
    rintro (⟨hk', -, -⟩ | ⟨hk', -, -⟩) <;> simp_all
  · rcases hp : ParamSpec.find? S n with _ | p
    · simp only [entryViolations, hk, hp, reduceCtorEq, false_iff]
      rintro (⟨hk', hp', -⟩ | ⟨hk', hp', -⟩) <;> simp_all
    · by_cases hv : v.isNull
      · simp only [entryViolations, hk, hp, hv, if_true, true_iff]
        exact .null hk hp hv
      · simp only [entryViolations, hk, hp, hv, Bool.false_eq_true, if_false]
        rw [valueViolations_eq_nil]
        constructor
        · exact .value hk hp
        · rintro (⟨-, -, hv'⟩ | ⟨hk', hp', hc⟩)
          · exact absurd hv' hv
          · simp_all
termination_by (sizeOf v, 3)

theorem valueViolations_eq_nil (p : ParamSpec) (field : String) (v : Value) :
    valueViolations p field v = [] ↔ ValueConforms p v := by
  cases v with
  | sequence items =>
    by_cases ha : p.type = .array
    · rcases he : p.elementType with _ | t
      · simp only [valueViolations, ha, he, if_true, true_iff]
        exact .untypedArray ha he
      · rw [valueViolations_elements ha he, List.flatMap_eq_nil_iff,
          valueConforms_elements_iff ha he]
        exact (forall₂_congr fun (xi : Value × Nat) hxi =>
          typeViolations_eq_nil t p.choices p.fields _ xi.1).trans (forall_mem_zipIdx_fst items _)
    · rw [valueConforms_typed_iff fun _ _ => ha]
      simp only [valueViolations, ha, if_false]
      exact typeViolations_eq_nil p.type p.choices p.fields field _
  | _ =>
    simp only [valueViolations]
    exact (typeViolations_eq_nil p.type p.choices p.fields field _).trans
      (valueConforms_typed_iff fun _ h => by cases h).symm
termination_by (sizeOf v, 2)
decreasing_by
  all_goals first
    | exact Prod.Lex.right _ (by decide)
    | exact Prod.Lex.left _ _ (sizeOf_lt_of_mem_zipIdx ‹_ ∈ _›)

theorem typeViolations_eq_nil (t : ParamType) (choices : List String) (fields : List ParamSpec)
    (field : String) (v : Value) :
    typeViolations t choices fields field v = [] ↔ TypeConforms t choices fields v := by
  by_cases ha : t.accepts v
  · cases v with
    | string s =>
      rw [typeConforms_string_iff ha]
      by_cases hc : choices = [] <;> simp [typeViolations, ha, hc]
    | mapping es =>
      by_cases hf : fields = []
      · subst hf
        simp only [typeViolations, ha, Bool.not_true, Bool.false_eq_true, if_false,
          List.isEmpty_nil, if_true, true_iff]
        exact .object ha
      · rw [typeConforms_mapping_iff ha hf, ← levelViolations_eq_nil fields (field ++ ".") es]
        simp [typeViolations, ha, hf]
    | _ =>
      simp only [typeViolations, ha, Bool.not_true, Bool.false_eq_true, if_false, true_iff]
      exact .scalar ha (fun _ h => nomatch h) (fun _ h => nomatch h)
  · rw [typeViolations.eq_def, if_pos (by simpa using ha)]
    simpa using not_typeConforms_of_accepts_false (by simpa using ha)
termination_by (sizeOf v, 1)
decreasing_by
  apply Prod.Lex.left
  simp only [Value.mapping.sizeOf_spec]
  omega

end

end Emptiness

section Payload

theorem payloadViolations_eq_nil (S : List ParamSpec) (P : Value) :
    payloadViolations S P = [] ↔ Conforms S P := by
  rw [conforms_iff]
  cases P <;> simp [payloadViolations, levelViolations_eq_nil]

/-- Validation passes with some entries when there is no violation, and otherwise fails with
exactly the violations. -/
theorem validateParams_eq_violations (S : List ParamSpec) (P : Value) :
    ∃ kept, validateParams S P =
      if payloadViolations S P = [] then .ok kept else .error ⟨payloadViolations S P⟩ := by
  cases P with
  | null =>
    refine ⟨(checkMapping S "" []).1, ?_⟩
    simp only [validateParams, payloadViolations, checkMapping_problems, List.isEmpty_iff]
    exact ite_cond_congr rfl
  | mapping es =>
    refine ⟨(checkMapping S "" es).1, ?_⟩
    simp only [validateParams, payloadViolations, checkMapping_problems, List.isEmpty_iff]
    exact ite_cond_congr rfl
  | _ => exact ⟨[], by simp [validateParams, payloadViolations]⟩

/-- Checking a payload against a schema passes exactly when the payload conforms, and otherwise
fails with one problem for each violation, in the order of `payloadViolations`. -/
theorem validateParams_reports_violations (S : List ParamSpec) (P : Value) :
    ((∃ kept, validateParams S P = .ok kept) ↔ Conforms S P) ∧
      ∀ e, validateParams S P = .error e →
        e.problems = payloadViolations S P ∧ e.problems ≠ [] := by
  obtain ⟨kept, h⟩ := validateParams_eq_violations S P
  rw [← payloadViolations_eq_nil, h]
  by_cases hv : payloadViolations S P = []
  · simp [hv]
  · simp only [hv, if_false, reduceCtorEq, exists_false, Except.error.injEq, true_and]
    rintro e rfl
    exact ⟨rfl, hv⟩

example : validateParams [] .null = .ok [] := by
  simp [validateParams, checkMapping, checkEntries, missingFields]

end Payload

end ManifestLint
