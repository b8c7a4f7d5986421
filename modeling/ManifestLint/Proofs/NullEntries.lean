import ManifestLint.Proofs.Validation
import ManifestLint.Templates.Catalog

/-! # Null values and absent entries

Checking a payload reads a null value as an absent entry. What passes is the payload with its null
entries left out, at the payload's own level and at each level below that checking descends into,
and nothing else changed; checked again, it passes unchanged (`validateParams_strips_nulls`).

At each level that checking descends into, an entry whose key names a parameter is checked the same
whether its value is null or the entry is left out: the same entries pass, and the same problems are
found, in the same order (`null_entry_checks_as_absent`). This needs the mapping that holds the entry
to have no key twice, as no YAML mapping has. An entry whose key names no parameter is reported
whatever its value.
-/

namespace ManifestLint

open Yaml

section Stripping

/-! ### Stripping null entries -/

mutual

/-- The entries of a mapping level without those whose value is null. The value of an entry whose
key names a parameter is stripped in turn, at the levels below that checking descends into. -/
def stripNulls (S : List ParamSpec) : List (Value × Value) → List (Value × Value)
  | [] => []
  | (k, v) :: rest =>
    if v.isNull then stripNulls S rest
    else
      match k.asString?.bind (ParamSpec.find? S) with
      | some p => (k, stripParam p v) :: stripNulls S rest
      | none => (k, v) :: stripNulls S rest

/-- The value of a parameter, stripped: the elements of an array with an element type, or the
fields of an object when the parameter has fields. Anything else is kept as it is. -/
def stripParam (p : ParamSpec) : Value → Value
  | .sequence xs =>
    if p.elementType.isSome then .sequence (stripItems p.fields xs) else .sequence xs
  | .mapping es => if p.fields.isEmpty then .mapping es else .mapping (stripNulls p.fields es)
  | v => v

/-- The elements of an array, each stripped against the fields of the objects it may hold. -/
def stripItems (fields : List ParamSpec) : List Value → List Value
  | [] => []
  | x :: xs => stripObject fields x :: stripItems fields xs

/-- A value stripped against the fields of an object: a mapping when there are fields. -/
def stripObject (fields : List ParamSpec) : Value → Value
  | .mapping es => if fields.isEmpty then .mapping es else .mapping (stripNulls fields es)
  | v => v

end

theorem stripNulls_cons_of_find? {S : List ParamSpec} {k v : Value} {n : String} {p : ParamSpec}
    (rest : List (Value × Value)) (hk : k.asString? = some n) (hp : ParamSpec.find? S n = some p)
    (hv : v.isNull = false) :
    stripNulls S ((k, v) :: rest) = (k, stripParam p v) :: stripNulls S rest := by
  simp [stripNulls, hv, hk, hp]

theorem stripParam_of_not_sequence (p : ParamSpec) {v : Value} (hv : ∀ xs, v ≠ .sequence xs) :
    stripParam p v = stripObject p.fields v := by
  cases v <;> simp_all [stripParam, stripObject]

@[simp] theorem isNull_stripParam (p : ParamSpec) (v : Value) :
    (stripParam p v).isNull = v.isNull := by
  cases v <;> simp only [stripParam] <;> split <;> rfl

theorem mem_stripNulls {S : List ParamSpec} {e : Value × Value} :
    ∀ {es : List (Value × Value)}, e ∈ stripNulls S es →
      ∃ v, (e.1, v) ∈ es ∧ v.isNull = false ∧
        e.2 = match e.1.asString?.bind (ParamSpec.find? S) with
          | some p => stripParam p v
          | none => v
  | [], h => by simp [stripNulls] at h
  | (k, v) :: rest, h => by
    by_cases hv : v.isNull = true
    · simp only [stripNulls, hv, if_true] at h
      obtain ⟨w, hw, hn, he⟩ := mem_stripNulls h
      exact ⟨w, List.mem_cons_of_mem _ hw, hn, he⟩
    · simp only [stripNulls, hv, Bool.false_eq_true, if_false] at h
      rcases hp : k.asString?.bind (ParamSpec.find? S) with _ | p <;>
        simp only [hp, List.mem_cons] at h <;> rcases h with rfl | h
      all_goals first
        | exact ⟨v, List.mem_cons_self, by simpa using hv, by simp [hp]⟩
        | obtain ⟨w, hw, hn, he⟩ := mem_stripNulls h
          exact ⟨w, List.mem_cons_of_mem _ hw, hn, he⟩

theorem mem_stripItems {fields : List ParamSpec} {x : Value} :
    ∀ {xs : List Value}, x ∈ stripItems fields xs → ∃ y ∈ xs, x = stripObject fields y
  | [], h => by simp [stripItems] at h
  | y :: ys, h => by
    rcases List.mem_cons.1 h with rfl | h
    · exact ⟨y, List.mem_cons_self, rfl⟩
    · obtain ⟨z, hz, rfl⟩ := mem_stripItems h
      exact ⟨z, List.mem_cons_of_mem _ hz, rfl⟩

theorem get?_stripNulls {S : List ParamSpec} {n : String} {v : Value} (hv : v.isNull = false) :
    ∀ {es : List (Value × Value)}, (Value.mapping es).get? n = some v →
      ∃ w, (Value.mapping (stripNulls S es)).get? n = some w ∧ w.isNull = false
  | [], h => by simp [Value.get?, Value.untag] at h
  | (k, u) :: rest, h => by
    simp only [Value.get?, Value.untag, List.find?_cons] at h ⊢
    by_cases hk : k.isKey n = true
    · simp only [hk, Option.map_some, Option.some.injEq] at h
      subst h
      rcases hp : k.asString?.bind (ParamSpec.find? S) with _ | p <;>
        simp [stripNulls, hv, hp, hk]
    · simp only [hk] at h
      have hrest : (Value.mapping rest).get? n = some v := h
      obtain ⟨w, hw, hn⟩ := get?_stripNulls hv hrest
      simp only [Value.get?, Value.untag] at hw
      refine ⟨w, ?_, hn⟩
      by_cases hu : u.isNull = true
      · simpa [stripNulls, hu] using hw
      · rcases hp : k.asString?.bind (ParamSpec.find? S) with _ | p <;>
          simpa [stripNulls, hu, hp, hk] using hw

end Stripping

section Idempotent

/-! ### Stripping twice is stripping once -/

mutual

theorem stripNulls_stripNulls (S : List ParamSpec) :
    ∀ es : List (Value × Value), stripNulls S (stripNulls S es) = stripNulls S es
  | [] => rfl
  | (k, v) :: rest => by
    by_cases hv : v.isNull = true
    · simpa [stripNulls, hv] using stripNulls_stripNulls S rest
    · rcases hp : k.asString?.bind (ParamSpec.find? S) with _ | p
      · simp [stripNulls, hv, hp, stripNulls_stripNulls S rest]
      · simp [stripNulls, hv, hp, stripParam_stripParam p v, stripNulls_stripNulls S rest]

theorem stripParam_stripParam (p : ParamSpec) :
    ∀ v : Value, stripParam p (stripParam p v) = stripParam p v
  | .sequence xs => by
    by_cases he : p.elementType.isSome = true
    · simp [stripParam, he, stripItems_stripItems p.fields xs]
    · simp [stripParam, he]
  | .mapping es => by
    by_cases hf : p.fields.isEmpty = true
    · simp [stripParam, hf]
    · simp [stripParam, hf, stripNulls_stripNulls p.fields es]
  | .null | .bool _ | .number _ | .string _ | .tagged _ _ => rfl

theorem stripItems_stripItems (fields : List ParamSpec) :
    ∀ xs : List Value, stripItems fields (stripItems fields xs) = stripItems fields xs
  | [] => rfl
  | x :: xs => by
    simp [stripItems, stripObject_stripObject fields x, stripItems_stripItems fields xs]

theorem stripObject_stripObject (fields : List ParamSpec) :
    ∀ v : Value, stripObject fields (stripObject fields v) = stripObject fields v
  | .mapping es => by
    by_cases hf : fields.isEmpty = true
    · simp [stripObject, hf]
    · simp [stripObject, hf, stripNulls_stripNulls fields es]
  | .null | .bool _ | .number _ | .string _ | .sequence _ | .tagged _ _ => rfl

end

end Idempotent

section Kept

/-! ### What passes a conforming payload

A payload that conforms passes stripped of its null entries, and what is stripped conforms again.
The recursion follows the checks' own, as in `checkMapping_problems`. -/

theorem ParamType.accepts_mapping (t : ParamType) (es es' : List (Value × Value)) :
    t.accepts (.mapping es) = t.accepts (.mapping es') := by
  cases t <;> rfl

theorem TypeConforms.accepts {t : ParamType} {choices : List String} {fields : List ParamSpec}
    {v : Value} (h : TypeConforms t choices fields v) : t.accepts v = true := by
  cases h <;> assumption

theorem ParamType.eq_array_of_accepts {t : ParamType} {items : List Value}
    (h : t.accepts (.sequence items) = true) : t = .array := by
  cases t <;> simp_all [ParamType.accepts]

theorem checkMapping_fst (S : List ParamSpec) (path : String) (es : List (Value × Value)) :
    (checkMapping S path es).1 = (checkEntries S path es).1 := by
  rw [checkMapping]

theorem checkEntries_cons_fst_of_null {S : List ParamSpec} {path : String} {k v : Value}
    {n : String} {p : ParamSpec} (rest : List (Value × Value)) (hk : k.asString? = some n)
    (hp : ParamSpec.find? S n = some p) (hv : v.isNull = true) :
    (checkEntries S path ((k, v) :: rest)).1 = (checkEntries S path rest).1 := by
  rw [checkEntries]
  simp [hk, hp, hv]

theorem checkEntries_cons_fst_of_checkParam {S : List ParamSpec} {path : String} {k v w : Value}
    {n : String} {p : ParamSpec} (rest : List (Value × Value)) (hk : k.asString? = some n)
    (hp : ParamSpec.find? S n = some p) (hv : v.isNull = false)
    (hc : (checkParam p (path ++ n) v).1 = some w) :
    (checkEntries S path ((k, v) :: rest)).1 = (k, w) :: (checkEntries S path rest).1 := by
  rw [checkEntries]
  rcases hcheck : checkParam p (path ++ n) v with ⟨_ | w', ps⟩ <;> simp_all

theorem checkElements_cons_fst (t : ParamType) (choices : List String) (fields : List ParamSpec)
    (field : String) (i : Nat) (x : Value) (rest : List Value) :
    (checkElements t choices fields field i (x :: rest)).1 =
      (checkType t choices fields (field ++ "[" ++ toString i ++ "]") x).1.toList ++
        (checkElements t choices fields field (i + 1) rest).1 := by
  rw [checkElements]

mutual

theorem checkMapping_kept (S : List ParamSpec) (path : String) (es : List (Value × Value))
    (h : LevelConforms S es) : (checkMapping S path es).1 = stripNulls S es := by
  rw [checkMapping_fst]
  exact checkEntries_kept S path es ((levelConforms_iff S es).1 h).1
termination_by (sizeOf es, 1)

theorem checkEntries_kept (S : List ParamSpec) (path : String) :
    ∀ es : List (Value × Value), (∀ e ∈ es, EntryConforms S e.1 e.2) →
      (checkEntries S path es).1 = stripNulls S es
  | [], _ => by rw [checkEntries]; rfl
  | (k, v) :: rest, h => by
    have hrest := checkEntries_kept S path rest fun e he => h e (List.mem_cons_of_mem _ he)
    obtain ⟨n, p, hk, hp, hc⟩ : ∃ n p, k.asString? = some n ∧ ParamSpec.find? S n = some p ∧
        (v.isNull = true ∨ ValueConforms p v) := by
      rcases h (k, v) List.mem_cons_self with ⟨hk, hp, hv⟩ | ⟨hk, hp, hc⟩
      · exact ⟨_, _, hk, hp, .inl hv⟩
      · exact ⟨_, _, hk, hp, .inr hc⟩
    by_cases hv : v.isNull = true
    · rw [checkEntries_cons_fst_of_null rest hk hp hv, hrest]
      simp [stripNulls, hv]
    · have hv' : v.isNull = false := by simpa using hv
      rw [checkEntries_cons_fst_of_checkParam rest hk hp hv'
          (checkParam_kept p (path ++ n) v (hc.resolve_left hv)), hrest,
        stripNulls_cons_of_find? rest hk hp hv']
termination_by es => (sizeOf es, 0)

theorem checkParam_kept (p : ParamSpec) (field : String) :
    ∀ v : Value, ValueConforms p v → (checkParam p field v).1 = some (stripParam p v)
  | .sequence items, h => by
    by_cases ha : p.type = .array
    · rcases he : p.elementType with _ | t
      · simp [checkParam, ha, he, stripParam]
      · have hx := (valueConforms_elements_iff ha he).1 h
        simp [checkParam, ha, he, stripParam,
          checkElements_kept t p.choices p.fields field 0 items hx]
    · have ht := (valueConforms_typed_iff fun _ _ => ha).1 h
      exact absurd (ParamType.eq_array_of_accepts ht.accepts) ha
  | .mapping es, h => by
    have ht := (valueConforms_typed_iff fun _ h => by cases h).1 h
    simpa [checkParam, stripParam_of_not_sequence] using
      checkType_kept p.type p.choices p.fields field (.mapping es) ht
  | .null, h | .bool _, h | .number _, h | .string _, h | .tagged _ _, h => by
    have ht := (valueConforms_typed_iff fun _ h => by cases h).1 h
    simpa [checkParam, stripParam_of_not_sequence] using
      checkType_kept p.type p.choices p.fields field _ ht
termination_by v => (sizeOf v, 2)

theorem checkType_kept (t : ParamType) (choices : List String) (fields : List ParamSpec)
    (field : String) :
    ∀ v : Value, TypeConforms t choices fields v →
      (checkType t choices fields field v).1 = some (stripObject fields v)
  | .string s, h => by
    have ha := h.accepts
    rcases (typeConforms_string_iff ha).1 h with hc | hc <;>
      simp [checkType, ha, stripObject, hc]
  | .mapping es, h => by
    have ha := h.accepts
    by_cases hf : fields.isEmpty = true
    · simp [checkType, ha, hf, stripObject]
    · have hne : fields ≠ [] := by simpa using hf
      simp [checkType, ha, hf, stripObject,
        checkMapping_kept fields (field ++ ".") es ((typeConforms_mapping_iff ha hne).1 h)]
  | .null, h | .bool _, h | .number _, h | .sequence _, h | .tagged _ _, h => by
    simp [checkType, h.accepts, stripObject]
termination_by v => (sizeOf v, 1)
decreasing_by
  apply Prod.Lex.left
  simp only [Value.mapping.sizeOf_spec]
  omega

theorem checkElements_kept (t : ParamType) (choices : List String) (fields : List ParamSpec)
    (field : String) (i : Nat) :
    ∀ xs : List Value, (∀ x ∈ xs, TypeConforms t choices fields x) →
      (checkElements t choices fields field i xs).1 = stripItems fields xs
  | [], _ => by rw [checkElements]; rfl
  | x :: rest, h => by
    rw [checkElements_cons_fst,
      checkType_kept t choices fields _ x (h x List.mem_cons_self),
      checkElements_kept t choices fields field (i + 1) rest
        fun y hy => h y (List.mem_cons_of_mem _ hy)]
    rfl
termination_by xs => (sizeOf xs, 0)

end

mutual

theorem levelConforms_stripNulls (S : List ParamSpec) (es : List (Value × Value))
    (h : LevelConforms S es) : LevelConforms S (stripNulls S es) := by
  obtain ⟨hentries, hrequired⟩ := (levelConforms_iff S es).1 h
  refine ⟨fun e he => ?_, fun p hp hr => ?_⟩
  · obtain ⟨v, hmem, hv, he2⟩ := mem_stripNulls he
    rcases hentries (e.1, v) hmem with ⟨-, -, hv'⟩ | ⟨hk, hp, hc⟩
    · simp_all
    · simp only [hk, Option.bind_some, hp] at he2
      exact .value hk hp (he2 ▸ valueConforms_stripParam _ v hc)
  · obtain ⟨v, hget, hv⟩ := hrequired p hp hr
    exact get?_stripNulls hv hget
termination_by (sizeOf es, 2)
decreasing_by exact Prod.Lex.left _ _ (by simpa using sizeOf_snd_lt_of_mem hmem)

theorem valueConforms_stripParam (p : ParamSpec) :
    ∀ v : Value, ValueConforms p v → ValueConforms p (stripParam p v)
  | .sequence items, h => by
    by_cases ha : p.type = .array
    · rcases he : p.elementType with _ | t
      · simpa [stripParam, he] using h
      · have hx := (valueConforms_elements_iff ha he).1 h
        have hs : stripParam p (.sequence items) = .sequence (stripItems p.fields items) := by
          simp [stripParam, he]
        rw [hs, valueConforms_elements_iff ha he]
        intro x hx'
        obtain ⟨y, hy, rfl⟩ := mem_stripItems hx'
        exact typeConforms_stripObject _ _ _ y (hx y hy)
    · have ht := (valueConforms_typed_iff fun _ _ => ha).1 h
      exact absurd (ParamType.eq_array_of_accepts ht.accepts) ha
  | .mapping es, h => by
    rw [stripParam_of_not_sequence p (by simp)]
    have ht := (valueConforms_typed_iff fun _ h => by cases h).1 h
    refine (valueConforms_typed_iff fun items hs => ?_).2
      (typeConforms_stripObject _ _ _ _ ht)
    simp only [stripObject] at hs
    split at hs <;> cases hs
  | .null, h | .bool _, h | .number _, h | .string _, h | .tagged _ _, h => h
termination_by v => (sizeOf v, 1)
decreasing_by
  all_goals first
    | exact Prod.Lex.right _ (by decide)
    | exact Prod.Lex.left _ _ (by
        have := List.sizeOf_lt_of_mem ‹_ ∈ items›
        simp only [Value.sequence.sizeOf_spec]
        omega)

theorem typeConforms_stripObject (t : ParamType) (choices : List String)
    (fields : List ParamSpec) :
    ∀ v : Value, TypeConforms t choices fields v → TypeConforms t choices fields (stripObject fields v)
  | .mapping es, h => by
    by_cases hf : fields.isEmpty = true
    · simpa [stripObject, hf] using h
    · have hne : fields ≠ [] := by simpa using hf
      have ha := h.accepts
      simp only [stripObject, hf, Bool.false_eq_true, if_false]
      rw [typeConforms_mapping_iff (by rwa [ParamType.accepts_mapping]) hne]
      exact levelConforms_stripNulls fields es ((typeConforms_mapping_iff ha hne).1 h)
  | .null, h | .bool _, h | .number _, h | .string _, h | .sequence _, h | .tagged _ _, h => h
termination_by v => (sizeOf v, 0)
decreasing_by
  apply Prod.Lex.left
  simp only [Value.mapping.sizeOf_spec]
  omega

end

theorem validateParams_null (S : List ParamSpec) :
    validateParams S .null = validateParams S (.mapping []) := rfl

theorem validateParams_mapping (S : List ParamSpec) (es : List (Value × Value)) :
    validateParams S (.mapping es) =
      if (checkMapping S "" es).2.isEmpty then .ok (checkMapping S "" es).1
      else .error ⟨(checkMapping S "" es).2⟩ := rfl

theorem validateParams_of_levelConforms {S : List ParamSpec} {es : List (Value × Value)}
    (h : LevelConforms S es) : validateParams S (.mapping es) = .ok (stripNulls S es) := by
  have hp : (checkMapping S "" es).2 = [] := by
    rw [checkMapping_problems]
    exact (levelViolations_eq_nil S "" es).2 h
  rw [validateParams_mapping, hp, checkMapping_kept S "" es h]
  rfl

/-- A payload that passes conforms, as a mapping or as null standing for the empty one, and what
passes is it stripped of its null entries. -/
theorem levelConforms_of_validateParams {S : List ParamSpec} {P : Value} {C : List (Value × Value)}
    (h : validateParams S P = .ok C) :
    ∃ es, (P = .null ∧ es = [] ∨ P = .mapping es) ∧ LevelConforms S es ∧ C = stripNulls S es := by
  obtain ⟨kept, hv⟩ := validateParams_eq_violations S P
  have hnil : payloadViolations S P = [] := by
    by_cases hne : payloadViolations S P = []
    · exact hne
    · rw [hv, if_neg hne] at h
      cases h
  rcases (conforms_iff S P).1 ((payloadViolations_eq_nil S P).1 hnil) with
    ⟨rfl, hl⟩ | ⟨es, rfl, hl⟩
  · rw [validateParams_null, validateParams_of_levelConforms hl, Except.ok.injEq] at h
    exact ⟨[], .inl ⟨rfl, rfl⟩, hl, h.symm⟩
  · rw [validateParams_of_levelConforms hl, Except.ok.injEq] at h
    exact ⟨es, .inr rfl, hl, h.symm⟩

/-- What passes is the payload, or the empty mapping for null, with its null entries stripped at
every level that checking descends into; checked again it passes unchanged. -/
theorem validateParams_strips_nulls (S : List ParamSpec) (P : Value) (C : List (Value × Value))
    (h : validateParams S P = .ok C) :
    (P = .null ∧ C = [] ∨ ∃ es, P = .mapping es ∧ C = stripNulls S es) ∧
      validateParams S (.mapping C) = .ok C := by
  obtain ⟨es, hP, hl, rfl⟩ := levelConforms_of_validateParams h
  have hagain : validateParams S (.mapping (stripNulls S es)) = .ok (stripNulls S es) := by
    rw [validateParams_of_levelConforms (levelConforms_stripNulls S es hl),
      stripNulls_stripNulls]
  rcases hP with ⟨rfl, rfl⟩ | rfl
  · exact ⟨.inl ⟨rfl, rfl⟩, hagain⟩
  · exact ⟨.inr ⟨es, rfl, rfl⟩, hagain⟩

/-- A required label given a null value passes without it, and passes so again. -/
theorem validateParams_strips_null_value :
    validateParams Template.requiredLabel.parameters
        (.mapping [(.string "key", .string "app"), (.string "value", .null)]) =
      .ok [(.string "key", .string "app")] ∧
    validateParams Template.requiredLabel.parameters (.mapping [(.string "key", .string "app")]) =
      .ok [(.string "key", .string "app")] := by
  have h : validateParams Template.requiredLabel.parameters
      (.mapping [(.string "key", .string "app"), (.string "value", .null)]) =
      .ok [(.string "key", .string "app")] := by
    simp [validateParams, checkMapping, checkEntries, checkParam, checkType, missingFields,
      Template.parameters, Template.mapParameters, ParamSpec.find?, Value.asString?, Value.untag,
      Value.get?, Value.isKey, Value.isNull, ParamType.accepts]
  exact ⟨h, (validateParams_strips_nulls _ _ _ h).2⟩

end Kept

section Absent

/-! ### A null value checks as an absent entry -/

/-- Whether a mapping gives a name a value that is not null, as required parameters need. -/
def givesValue (es : List (Value × Value)) (name : String) : Bool :=
  ((Value.mapping es).get? name).any fun v => !v.isNull

theorem missingFields_eq_filterMap (S : List ParamSpec) (es : List (Value × Value))
    (path : String) :
    missingFields S es path = (S.filter (·.required)).filterMap fun p =>
      if givesValue es p.name then none else some (.missingField (path ++ p.name)) := by
  simp only [missingFields]
  congr 1
  funext p
  rcases h : (Value.mapping es).get? p.name with _ | v
  · simp [givesValue, h]
  · by_cases hv : v.isNull = true <;> simp [givesValue, h, hv]

theorem missingFields_congr {S : List ParamSpec} {es es' : List (Value × Value)} {path : String}
    (h : ∀ n, givesValue es n = givesValue es' n) :
    missingFields S es path = missingFields S es' path := by
  simp only [missingFields_eq_filterMap, h]

theorem givesValue_replace {pre post : List (Value × Value)} {k v₁ v₂ : Value} (n : String)
    (hn : v₁.isNull = v₂.isNull) :
    givesValue (pre ++ (k, v₁) :: post) n = givesValue (pre ++ (k, v₂) :: post) n := by
  simp only [givesValue, Value.get?, Value.untag, List.find?_append, List.find?_cons]
  cases pre.find? (fun e => e.1.isKey n) with
  | some e => rfl
  | none => by_cases hk : k.isKey n = true <;> simp [hk, hn]

theorem givesValue_null_erase {pre post : List (Value × Value)} {k : Value} (n : String)
    (hd : ∀ e ∈ pre ++ post, k.isKey n = true → e.1.isKey n = false) :
    givesValue (pre ++ (k, .null) :: post) n = givesValue (pre ++ post) n := by
  simp only [givesValue, Value.get?, Value.untag, List.find?_append, List.find?_cons]
  by_cases hk : k.isKey n = true
  · have hpre : pre.find? (fun e => e.1.isKey n) = none :=
      List.find?_eq_none.2 fun e he => by simp [hd e (List.mem_append_left _ he) hk]
    have hpost : post.find? (fun e => e.1.isKey n) = none :=
      List.find?_eq_none.2 fun e he => by simp [hd e (List.mem_append_right _ he) hk]
    simp [hpre, hpost, hk, Value.isNull, Value.untag]
  · cases pre.find? (fun e => e.1.isKey n) <;> simp [hk]

theorem checkMapping_eq (S : List ParamSpec) (path : String) (es : List (Value × Value)) :
    checkMapping S path es =
      ((checkEntries S path es).1, (checkEntries S path es).2 ++ missingFields S es path) := by
  rw [checkMapping]

theorem checkEntries_cons (S : List ParamSpec) (path : String) (e : Value × Value)
    (rest : List (Value × Value)) :
    checkEntries S path (e :: rest) =
      ((checkEntries S path [e]).1 ++ (checkEntries S path rest).1,
        (checkEntries S path [e]).2 ++ (checkEntries S path rest).2) := by
  obtain ⟨k, v⟩ := e
  simp [checkEntries]

theorem checkEntries_append (S : List ParamSpec) (path : String) :
    ∀ xs ys : List (Value × Value), checkEntries S path (xs ++ ys) =
      ((checkEntries S path xs).1 ++ (checkEntries S path ys).1,
        (checkEntries S path xs).2 ++ (checkEntries S path ys).2)
  | [], ys => by simp [checkEntries]
  | e :: xs, ys => by
    rw [List.cons_append, checkEntries_cons, checkEntries_append S path xs ys,
      checkEntries_cons S path e xs]
    simp

theorem checkEntries_null {S : List ParamSpec} {path : String} {k : Value} {n : String}
    {p : ParamSpec} (hk : k.asString? = some n) (hp : ParamSpec.find? S n = some p) :
    checkEntries S path [(k, .null)] = ([], []) := by
  simp [checkEntries, hk, hp, Value.isNull, Value.untag]

theorem checkEntries_of_find? {S : List ParamSpec} {path : String} {k v : Value} {n : String}
    {p : ParamSpec} (hk : k.asString? = some n) (hp : ParamSpec.find? S n = some p)
    (hv : v.isNull = false) :
    checkEntries S path [(k, v)] =
      (((checkParam p (path ++ n) v).1.map (k, ·)).toList, (checkParam p (path ++ n) v).2) := by
  rw [checkEntries]
  rcases hc : checkParam p (path ++ n) v with ⟨_ | w, ps⟩ <;> simp [hk, hp, hv, hc, checkEntries]

theorem checkElements_cons (t : ParamType) (choices : List String) (fields : List ParamSpec)
    (field : String) (i : Nat) (x : Value) (rest : List Value) :
    checkElements t choices fields field i (x :: rest) =
      ((checkType t choices fields (field ++ "[" ++ toString i ++ "]") x).1.toList ++
          (checkElements t choices fields field (i + 1) rest).1,
        (checkType t choices fields (field ++ "[" ++ toString i ++ "]") x).2 ++
          (checkElements t choices fields field (i + 1) rest).2) := by
  rw [checkElements]

theorem checkElements_append (t : ParamType) (choices : List String) (fields : List ParamSpec)
    (field : String) :
    ∀ (i : Nat) (xs ys : List Value), checkElements t choices fields field i (xs ++ ys) =
      ((checkElements t choices fields field i xs).1 ++
          (checkElements t choices fields field (i + xs.length) ys).1,
        (checkElements t choices fields field i xs).2 ++
          (checkElements t choices fields field (i + xs.length) ys).2)
  | i, [], ys => by simp [checkElements]
  | i, x :: xs, ys => by
    rw [List.cons_append, checkElements_cons, checkElements_append t choices fields field (i + 1),
      checkElements_cons]
    simp [Nat.add_assoc, Nat.add_comm 1]

theorem checkType_object {choices : List String} {fields : List ParamSpec} (field : String)
    (es : List (Value × Value)) (hf : fields ≠ []) :
    checkType .object choices fields field (.mapping es) =
      (some (.mapping (checkMapping fields (field ++ ".") es).1),
        (checkMapping fields (field ++ ".") es).2) := by
  simp [checkType, ParamType.accepts, hf]

theorem checkParam_object {p : ParamSpec} (field : String) (es : List (Value × Value))
    (ho : p.type = .object) (hf : p.fields ≠ []) :
    checkParam p field (.mapping es) =
      (some (.mapping (checkMapping p.fields (field ++ ".") es).1),
        (checkMapping p.fields (field ++ ".") es).2) := by
  rw [checkParam, ho, checkType_object field es hf]
  intro _ h
  cases h

theorem checkParam_objects {p : ParamSpec} (field : String) (items : List Value)
    (ha : p.type = .array) (he : p.elementType = some .object) :
    checkParam p field (.sequence items) =
      (some (.sequence (checkElements .object p.choices p.fields field 0 items).1),
        (checkElements .object p.choices p.fields field 0 items).2) := by
  simp [checkParam, ha, he]

theorem checkMapping_replace {S : List ParamSpec} {path : String} {pre post : List (Value × Value)}
    {k v₁ v₂ : Value} (hc : checkEntries S path [(k, v₁)] = checkEntries S path [(k, v₂)])
    (hn : v₁.isNull = v₂.isNull) :
    checkMapping S path (pre ++ (k, v₁) :: post) = checkMapping S path (pre ++ (k, v₂) :: post) := by
  rw [checkMapping_eq, checkMapping_eq, checkEntries_append, checkEntries_append,
    checkEntries_cons S path (k, v₁), checkEntries_cons S path (k, v₂), hc,
    missingFields_congr fun n => givesValue_replace n hn]

theorem checkMapping_null_erase {S : List ParamSpec} {path : String}
    {pre post : List (Value × Value)} {k : Value} {n : String} {p : ParamSpec}
    (hk : k.asString? = some n) (hp : ParamSpec.find? S n = some p)
    (hd : ∀ e ∈ pre ++ post, ∀ m, k.isKey m = true → e.1.isKey m = false) :
    checkMapping S path (pre ++ (k, .null) :: post) = checkMapping S path (pre ++ post) := by
  rw [checkMapping_eq, checkMapping_eq, checkEntries_append, checkEntries_append,
    checkEntries_cons, checkEntries_null hk hp,
    missingFields_congr fun m => givesValue_null_erase m fun e he => hd e he m]
  simp

end Absent

section Sites

/-! ### Levels that checking descends into -/

/-- Where a mapping level sits in a payload: the payload's own entries, the value of an entry, or
a mapping in the array that is the value of an entry. `pre` and `post` are the entries around
that entry, and `xs` and `ys` the elements around that mapping. -/
inductive Site
  | top
  | field (pre : List (Value × Value)) (k : Value) (post : List (Value × Value)) (inner : Site)
  | item (pre : List (Value × Value)) (k : Value) (xs ys : List Value)
      (post : List (Value × Value)) (inner : Site)

/-- The entries of a payload whose level at a site holds the entries `es`. -/
def Site.plug : Site → List (Value × Value) → List (Value × Value)
  | .top, es => es
  | .field pre k post s, es => pre ++ (k, .mapping (s.plug es)) :: post
  | .item pre k xs ys post s, es =>
    pre ++ (k, .sequence (xs ++ .mapping (s.plug es) :: ys)) :: post

/-- Checking descends from a level of schema `S`, its fields named after `path`, to the level at a
site, of schema `S'`, its fields named after `path'`: into the value of an object parameter with
fields, and into a mapping in an array of such objects. -/
inductive Site.Reaches : List ParamSpec → String → Site → List ParamSpec → String → Prop
  | top {S : List ParamSpec} {path : String} : Site.Reaches S path .top S path
  | field {S S' : List ParamSpec} {path path' n : String} {p : ParamSpec}
      {pre post : List (Value × Value)} {k : Value} {s : Site} :
      k.asString? = some n → ParamSpec.find? S n = some p → p.type = .object → p.fields ≠ [] →
      Site.Reaches p.fields (path ++ n ++ ".") s S' path' →
      Site.Reaches S path (.field pre k post s) S' path'
  | item {S S' : List ParamSpec} {path path' n : String} {p : ParamSpec}
      {pre post : List (Value × Value)} {k : Value} {xs ys : List Value} {s : Site} :
      k.asString? = some n → ParamSpec.find? S n = some p → p.type = .array →
      p.elementType = some .object → p.fields ≠ [] →
      Site.Reaches p.fields (path ++ n ++ "[" ++ toString xs.length ++ "]" ++ ".") s S' path' →
      Site.Reaches S path (.item pre k xs ys post s) S' path'

theorem checkMapping_plug {S S' : List ParamSpec} {path path' : String} {s : Site}
    (hs : s.Reaches S path S' path') {es₁ es₂ : List (Value × Value)}
    (h : checkMapping S' path' es₁ = checkMapping S' path' es₂) :
    checkMapping S path (s.plug es₁) = checkMapping S path (s.plug es₂) := by
  induction hs with
  | top => exact h
  | field hk hp ho hf _ ih =>
    refine checkMapping_replace ?_ rfl
    rw [checkEntries_of_find? hk hp rfl, checkEntries_of_find? hk hp rfl,
      checkParam_object _ _ ho hf, checkParam_object _ _ ho hf, ih h]
  | item hk hp ha he hf _ ih =>
    refine checkMapping_replace ?_ rfl
    rw [checkEntries_of_find? hk hp rfl, checkEntries_of_find? hk hp rfl,
      checkParam_objects _ _ ha he, checkParam_objects _ _ ha he, checkElements_append,
      checkElements_append, checkElements_cons, checkElements_cons, Nat.zero_add,
      checkType_object _ _ hf, checkType_object _ _ hf, ih h]

theorem mem_levelViolations {S : List ParamSpec} {path : String} {es : List (Value × Value)}
    {e : Value × Value} (he : e ∈ es) {x : ParamProblem} (hx : x ∈ entryViolations S path e.1 e.2) :
    x ∈ levelViolations S path es := by
  rw [levelViolations]
  exact List.mem_append_left _ (List.mem_flatMap.2 ⟨e, he, hx⟩)

theorem entryViolations_of_find? {S : List ParamSpec} {path : String} {k v : Value} {n : String}
    {p : ParamSpec} (hk : k.asString? = some n) (hp : ParamSpec.find? S n = some p)
    (hv : v.isNull = false) :
    entryViolations S path k v = valueViolations p (path ++ n) v := by
  rw [entryViolations]
  simp [hk, hp, hv]

theorem valueViolations_object {p : ParamSpec} (field : String) (es : List (Value × Value))
    (ho : p.type = .object) (hf : p.fields ≠ []) :
    valueViolations p field (.mapping es) = levelViolations p.fields (field ++ ".") es := by
  rw [valueViolations, typeViolations]
  · simp [ho, hf, ParamType.accepts]
  · intro _ h
    cases h

theorem typeViolations_object {choices : List String} {fields : List ParamSpec} (field : String)
    (es : List (Value × Value)) (hf : fields ≠ []) :
    typeViolations .object choices fields field (.mapping es) =
      levelViolations fields (field ++ ".") es := by
  rw [typeViolations]
  simp [hf, ParamType.accepts]

theorem levelViolations_plug {S S' : List ParamSpec} {path path' : String} {s : Site}
    (hs : s.Reaches S path S' path') {es : List (Value × Value)} {x : ParamProblem}
    (hx : x ∈ levelViolations S' path' es) : x ∈ levelViolations S path (s.plug es) := by
  induction hs with
  | top => exact hx
  | field hk hp ho hf _ ih =>
    refine mem_levelViolations (List.mem_append_right _ List.mem_cons_self) ?_
    rw [entryViolations_of_find? hk hp rfl, valueViolations_object _ _ ho hf]
    exact ih hx
  | @item _ _ _ _ _ p _ _ _ xs ys s hk hp ha he hf _ ih =>
    refine mem_levelViolations (List.mem_append_right _ List.mem_cons_self) ?_
    rw [entryViolations_of_find? hk hp rfl, valueViolations_elements ha he]
    refine List.mem_flatMap.2 ⟨(.mapping (s.plug es), xs.length), ?_, ?_⟩
    · rw [List.mk_mem_zipIdx_iff_getElem?]
      simp
    · rw [typeViolations_object _ _ hf]
      exact ih hx

end Sites

section UniqueKeys

/-! ### Mappings with no key twice -/

/-- No mapping within a value has a key twice, keys compared as `Value.same` compares them. So it
is for every mapping YAML can hold: reading a document refuses a key given twice. -/
inductive Yaml.Value.UniqueKeys : Value → Prop
  | null : Value.UniqueKeys .null
  | bool (b : Bool) : Value.UniqueKeys (.bool b)
  | number (n : Number) : Value.UniqueKeys (.number n)
  | string (s : String) : Value.UniqueKeys (.string s)
  | sequence {xs : List Value} : (∀ x ∈ xs, Value.UniqueKeys x) → Value.UniqueKeys (.sequence xs)
  | mapping {es : List (Value × Value)} : es.Pairwise (fun a b => a.1.same b.1 = false) →
      (∀ e ∈ es, Value.UniqueKeys e.1) → (∀ e ∈ es, Value.UniqueKeys e.2) →
      Value.UniqueKeys (.mapping es)
  | tagged (t : String) {v : Value} : Value.UniqueKeys v → Value.UniqueKeys (.tagged t v)

theorem Yaml.Value.same_of_isKey {a b : Value} {m : String} (ha : a.isKey m = true)
    (hb : b.isKey m = true) : a.same b = true := by
  cases a <;> cases b <;> simp_all [Value.isKey, Value.same]

theorem Yaml.Value.UniqueKeys.of_plug {es : List (Value × Value)} :
    ∀ {s : Site}, (Value.mapping (s.plug es)).UniqueKeys → (Value.mapping es).UniqueKeys
  | .top, h => h
  | .field _ _ _ _, h => by
    cases h with
    | mapping _ _ hall => exact of_plug (hall _ (List.mem_append_right _ List.mem_cons_self))
  | .item _ _ _ _ _ _, h => by
    cases h with
    | mapping _ _ hall =>
      cases hall _ (List.mem_append_right _ List.mem_cons_self) with
      | sequence hxs => exact of_plug (hxs _ (List.mem_append_right _ List.mem_cons_self))

theorem Yaml.Value.UniqueKeys.isKey_other {pre post : List (Value × Value)} {k v : Value}
    (h : (Value.mapping (pre ++ (k, v) :: post)).UniqueKeys) :
    ∀ e ∈ pre ++ post, ∀ m, k.isKey m = true → e.1.isKey m = false := by
  cases h with
  | mapping hpw _ _ =>
    intro e he m hk
    have hne : e.1.same k = false ∨ k.same e.1 = false := by
      rw [List.pairwise_append, List.pairwise_cons] at hpw
      rcases List.mem_append.1 he with he | he
      · exact .inl (hpw.2.2 e he (k, v) List.mem_cons_self)
      · exact .inr (hpw.2.1.1 e he)
    cases hek : e.1.isKey m with
    | false => rfl
    | true =>
      rcases hne with hne | hne
      · rw [Value.same_of_isKey hek hk] at hne
        cases hne
      · rw [Value.same_of_isKey hk hek] at hne
        cases hne

end UniqueKeys

/-- At every level that checking descends into, an entry whose key names a parameter of that
level is checked the same, entries kept and problems found, whether its value is null or the entry
is left out. An entry whose key names no parameter is reported as unknown whatever its value. At
the top, a null payload is checked as the empty mapping. The payload is one YAML can hold, with no
key twice in a mapping. -/
theorem null_entry_checks_as_absent {S S' : List ParamSpec} {path' : String} {s : Site}
    (hs : s.Reaches S "" S' path') (pre post : List (Value × Value)) (k v : Value)
    (hu : (Value.mapping (s.plug (pre ++ (k, v) :: post))).UniqueKeys) :
    ((k.asString?.bind (ParamSpec.find? S')).isSome = true →
      validateParams S (.mapping (s.plug (pre ++ (k, .null) :: post))) =
        validateParams S (.mapping (s.plug (pre ++ post)))) ∧
    (∀ n, k.asString? = some n → ParamSpec.find? S' n = none →
      ∃ e, validateParams S (.mapping (s.plug (pre ++ (k, v) :: post))) = .error e ∧
        ParamProblem.unknownField (path' ++ n) ∈ e.problems) ∧
    validateParams S .null = validateParams S (.mapping []) := by
  refine ⟨fun hnamed => ?_, fun n hk hp => ?_, validateParams_null S⟩
  · obtain ⟨p, hkp⟩ := Option.isSome_iff_exists.1 hnamed
    obtain ⟨n, hk, hp⟩ := Option.bind_eq_some_iff.1 hkp
    rw [validateParams_mapping, validateParams_mapping,
      checkMapping_plug hs (checkMapping_null_erase hk hp hu.of_plug.isKey_other)]
  · have hx : ParamProblem.unknownField (path' ++ n) ∈
        levelViolations S' path' (pre ++ (k, v) :: post) := by
      refine mem_levelViolations (List.mem_append_right _ List.mem_cons_self) ?_
      rw [entryViolations]
      simp [hk, hp]
    have hx' := levelViolations_plug hs hx
    rw [← checkMapping_problems] at hx'
    have hne : (checkMapping S "" (s.plug (pre ++ (k, v) :: post))).2.isEmpty = false := by
      cases h : (checkMapping S "" (s.plug (pre ++ (k, v) :: post))).2 with
      | nil => rw [h] at hx'; cases hx'
      | cons _ _ => rfl
    refine ⟨⟨(checkMapping S "" (s.plug (pre ++ (k, v) :: post))).2⟩, ?_, hx'⟩
    rw [validateParams_mapping, hne]
    rfl

/-- The optional value of a required label checks the same given as null as left out. -/
theorem null_value_checks_as_absent :
    Site.Reaches Template.requiredLabel.parameters "" .top Template.requiredLabel.parameters "" ∧
    (Value.mapping [(.string "key", .string "app"), (.string "value", .string "web")]).UniqueKeys ∧
    validateParams Template.requiredLabel.parameters
        (.mapping [(.string "key", .string "app"), (.string "value", .null)]) =
      validateParams Template.requiredLabel.parameters (.mapping [(.string "key", .string "app")]) := by
  have hs : Site.Reaches Template.requiredLabel.parameters "" .top
      Template.requiredLabel.parameters "" := .top
  have hu : (Value.mapping
      [(.string "key", .string "app"), (.string "value", .string "web")]).UniqueKeys := by
    refine .mapping (by simp [Value.same]) (fun e he => ?_) (fun e he => ?_) <;>
      simp only [List.mem_cons, List.not_mem_nil, or_false] at he <;>
      rcases he with rfl | rfl <;> exact .string _
  exact ⟨hs, hu, (null_entry_checks_as_absent hs [(.string "key", .string "app")] []
    (.string "value") (.string "web") hu).1 rfl⟩

end ManifestLint
