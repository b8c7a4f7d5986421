import ManifestLint.Proofs.NullEntries

/-! # Reading validated parameters into records

A template reads the entries that pass validation into its record as a derived deserializer reads a
struct (`RecordKind.read`). That reader refuses a key naming no field, a value of the wrong type, a
field given twice, and a missing field that has no default. After validation only one of these can
happen. Every kept key names a parameter and its value conforms to it. The record of every
template has a field of each parameter's name, of a type that takes every value conforming to the
parameter (`Template.agrees_fields`). Each field without a default is a required parameter, which
validation finds under its plain name. What validation does not rule out is two keys naming one
field, one of them through a tag; the record refuses exactly those, naming the field given twice.

A record read holds, for each parameter, what the entry naming it reads as, or the default of the
field's type when no entry names it (`readParams_reads_fields`).
-/

namespace ManifestLint

open Yaml

/-- The value of a field of a parameter record. -/
inductive FieldValue
  | text (s : String)
  | int (i : Option Int)
  | texts (l : List String)
deriving DecidableEq, Repr

/-- What a field holds when read from a value: a string its text, a number its integer if it has
one, an array the strings among its elements. -/
def FieldValue.ofValue : Value → Option FieldValue
  | .string s => some (.text s)
  | .number n => some (.int n.asInt?)
  | .sequence items => some (.texts (items.filterMap Value.asString?))
  | _ => none

/-- The default of a field of a type: the empty text, zero, none, the empty list. -/
def FieldType.defaultValue : FieldType → FieldValue
  | .text => .text ""
  | .int => .int (some 0)
  | .optionalInt => .int none
  | .texts => .texts []

/-- The fields of a parameter record under the names their keys have in a payload. -/
def TemplateParams.fields : TemplateParams → List (String × FieldValue)
  | .requiredMap key value => [("key", .text key), ("value", .text value)]
  | .latestTag blockList allowList =>
    [("blockList", .texts blockList), ("allowList", .texts allowList)]
  | .empty => []
  | .envVar name value => [("name", .text name), ("value", .text value)]
  | .minimumReplicas minReplicas => [("minReplicas", .int (some minReplicas))]
  | .cpuRequirements requirementsType lower upper =>
    [("requirementsType", .text requirementsType), ("lowerBoundMillis", .int (some lower)),
      ("upperBoundMillis", .int upper)]
  | .disallowedGvk group version kind =>
    [("group", .text group), ("version", .text version), ("kind", .text kind)]
  | .danglingService ignoredLabels => [("ignoredLabels", .texts ignoredLabels)]

/-- The field of a record under a name. -/
def TemplateParams.field? (p : TemplateParams) (name : String) : Option FieldValue :=
  p.fields.lookup name

/-- Whether a field's type takes what conforms to a parameter: a string what conforms to a string
parameter, an integer, optional or not, what conforms to an integer parameter, and a list of
strings what conforms to an array of strings. -/
def FieldType.agrees (ty : FieldType) (p : ParamSpec) : Bool :=
  match ty with
  | .text => p.type == .string
  | .int | .optionalInt => p.type == .integer
  | .texts => p.type == .array && p.elementType == some .string

namespace RecordFields

/-- The text of a field, or the empty text. -/
def text (fields : List (String × Value)) (name : String) : String :=
  match fields.lookup name with
  | some (.string s) => s
  | _ => ""

/-- The texts of a list field, or none. -/
def texts (fields : List (String × Value)) (name : String) : List String :=
  match fields.lookup name with
  | some (.sequence items) => items.filterMap Value.asString?
  | _ => []

/-- The integer of a field. -/
def int? (fields : List (String × Value)) (name : String) : Option Int :=
  (fields.lookup name).bind Value.asInt?

end RecordFields

/-- The record of a kind made of fields that conform to its template's schema: each field read
from the field of its name, or its default when there is none. -/
def RecordKind.ofFields (k : RecordKind) (fields : List (String × Value)) : TemplateParams :=
  let text := RecordFields.text fields
  match k with
  | .requiredMap => .requiredMap (text "key") (text "value")
  | .latestTag =>
    .latestTag (RecordFields.texts fields "blockList") (RecordFields.texts fields "allowList")
  | .empty => .empty
  | .envVar => .envVar (text "name") (text "value")
  | .minimumReplicas => .minimumReplicas ((RecordFields.int? fields "minReplicas").getD 0)
  | .cpuRequirements =>
    .cpuRequirements (text "requirementsType")
      ((RecordFields.int? fields "lowerBoundMillis").getD 0)
      (RecordFields.int? fields "upperBoundMillis")
  | .disallowedGvk => .disallowedGvk (text "group") (text "version") (text "kind")
  | .danglingService => .danglingService (RecordFields.texts fields "ignoredLabels")

section Lookup

/-! ### Fields by name -/

variable {es : List (Value × Value)} {fields : List (String × Value)} {n : String} {v : Value}

theorem mem_named :
    (n, v) ∈ RecordFields.named es ↔ ∃ k, (k, v) ∈ es ∧ k.asString? = some n := by
  simp only [RecordFields.named, List.mem_filterMap, Option.map_eq_some_iff, Prod.mk.injEq]
  constructor
  · rintro ⟨⟨k, w⟩, hkw, n', hk, rfl, rfl⟩
    exact ⟨k, hkw, hk⟩
  · rintro ⟨k, hkv, hk⟩
    exact ⟨(k, v), hkv, n, hk, rfl, rfl⟩

theorem RecordFields.named_cons {k : Value} (hk : k.asString? = some n)
    (rest : List (Value × Value)) :
    RecordFields.named ((k, v) :: rest) = (n, v) :: RecordFields.named rest := by
  simp [RecordFields.named, hk]

theorem lookup_eq_some_of_mem (hnd : (fields.map (·.1)).Nodup) (h : (n, v) ∈ fields) :
    fields.lookup n = some v := by
  induction fields with
  | nil => simp at h
  | cons f fields ih =>
    obtain ⟨a, b⟩ := f
    simp only [List.map_cons, List.nodup_cons] at hnd
    rcases List.mem_cons.1 h with heq | hmem
    · simp only [Prod.mk.injEq] at heq
      obtain ⟨rfl, rfl⟩ := heq
      simp
    · have hne : (n == a) = false := by
        have : n ∈ fields.map (·.1) := List.mem_map.2 ⟨(n, v), hmem, rfl⟩
        simpa using fun hna : n = a => hnd.1 (hna ▸ this)
      simp only [List.lookup_cons, hne]
      exact ih hnd.2 hmem

theorem mem_of_lookup_eq_some (h : fields.lookup n = some v) : (n, v) ∈ fields := by
  obtain ⟨l₁, l₂, rfl, -⟩ := List.lookup_eq_some_iff.1 h
  simp

theorem lookup_named_eq_none (h : ∀ k v, (k, v) ∈ es → k.asString? ≠ some n) :
    (RecordFields.named es).lookup n = none := by
  rw [List.lookup_eq_none_iff]
  rintro ⟨m, w⟩ hmw
  obtain ⟨k, hkw, hk⟩ := mem_named.1 hmw
  have hne : n ≠ m := fun hnm => h k w hkw (hnm ▸ hk)
  simpa using hne

namespace RecordFields

theorem text_of_lookup {s : String} (h : fields.lookup n = some (.string s)) : text fields n = s := by
  simp [text, h]

theorem texts_of_lookup {l : List String} (h : fields.lookup n = some (.sequence (l.map .string))) :
    texts fields n = l := by
  simp [texts, h, List.filterMap_map, Function.comp_def, Value.asString?, Value.untag]

theorem int?_of_lookup {m : Number} (h : fields.lookup n = some (.number m)) :
    int? fields n = m.asInt? := by
  simp [int?, h, Value.asInt?, Value.untag]

end RecordFields

end Lookup

section Conformance

/-! ### Values that conform to a parameter -/

theorem eq_map_string_of_forall {xs : List Value} (h : ∀ x ∈ xs, ∃ s, x = .string s) :
    xs = (xs.filterMap Value.asString?).map .string := by
  induction xs with
  | nil => rfl
  | cons x xs ih =>
    obtain ⟨s, rfl⟩ := h x List.mem_cons_self
    have hxs := ih fun y hy => h y (List.mem_cons_of_mem _ hy)
    simpa [Value.asString?, Value.untag] using hxs

namespace ValueConforms

variable {p : ParamSpec} {v : Value}

theorem accepts (h : ValueConforms p v) : p.type.accepts v = true := by
  rcases h with ⟨ha, -⟩ | ⟨ha, -, -⟩ | ⟨-, hc⟩
  · rw [ha]
    rfl
  · rw [ha]
    rfl
  · exact hc.accepts

theorem eq_string (ht : p.type = .string) (h : ValueConforms p v) : ∃ s, v = .string s := by
  have ha := h.accepts
  rw [ht] at ha
  cases v <;> simp [ParamType.accepts] at ha
  exact ⟨_, rfl⟩

theorem eq_number (ht : p.type = .integer) (h : ValueConforms p v) :
    ∃ m i, v = .number m ∧ m.asInt? = some i := by
  have ha := h.accepts
  rw [ht] at ha
  cases v <;> simp [ParamType.accepts] at ha
  obtain ⟨i, hi⟩ := Option.isSome_iff_exists.1 ha
  exact ⟨_, i, rfl, hi⟩

theorem eq_strings (ht : p.type = .array) (he : p.elementType = some .string)
    (h : ValueConforms p v) : ∃ l : List String, v = .sequence (l.map .string) := by
  rcases h with ⟨-, he'⟩ | ⟨-, he', hx⟩ | ⟨hn, hc⟩
  · simp [he] at he'
  · rw [he, Option.some.injEq] at he'
    subst he'
    refine ⟨_, congrArg Value.sequence (eq_map_string_of_forall fun x hxm => ?_)⟩
    have ha := (hx x hxm).accepts
    cases x <;> simp [ParamType.accepts] at ha
    exact ⟨_, rfl⟩
  · have ha := hc.accepts
    rw [ht] at ha
    cases v <;> simp [ParamType.accepts] at ha
    exact absurd ht (hn _ rfl)

end ValueConforms

end Conformance

section Decoding

/-! ### Decoding what conforms -/

namespace RecordFields

theorem decodeInt_number {m : Number} {i : Int} (h : m.asInt? = some i) :
    decodeInt (.number m) = .ok i := by
  cases m with
  | nat k =>
    simp only [Number.asInt?] at h
    split at h
    · cases h
      simp [decodeInt, Value.untag, *]
    · cases h
  | neg j =>
    cases h
    rfl
  | float _ => cases h

theorem decodeTexts_strings (l : List String) :
    decodeTexts (.sequence (l.map .string)) = .ok l := by
  simp only [decodeTexts, Value.untag]
  induction l with
  | nil => rfl
  | cons s l ih =>
    rw [List.map_cons, List.mapM_cons, ih]
    rfl

end RecordFields

theorem FieldType.check_of_agrees {ty : FieldType} {p : ParamSpec} {v : Value}
    (h : ty.agrees p = true) (hc : ValueConforms p v) : ty.check v = .ok () := by
  cases ty with
  | text =>
    obtain ⟨s, rfl⟩ := hc.eq_string (by simpa [agrees] using h)
    rfl
  | int =>
    obtain ⟨m, i, rfl, hi⟩ := hc.eq_number (by simpa [agrees] using h)
    simp [check, RecordFields.decodeInt_number hi, Except.map]
  | optionalInt =>
    obtain ⟨m, i, rfl, hi⟩ := hc.eq_number (by simpa [agrees] using h)
    simp only [check, RecordFields.decodeOptionalInt, RecordFields.decodeInt_number hi]
    rfl
  | texts =>
    simp only [agrees, Bool.and_eq_true, beq_iff_eq] at h
    obtain ⟨l, rfl⟩ := hc.eq_strings h.1 h.2
    simp [check, RecordFields.decodeTexts_strings, Except.map]

theorem Template.agrees_fields (t : Template) :
    ∀ p ∈ t.parameters, (t.record.fields.lookup p.name).any (·.agrees p) = true := by
  cases t <;> decide

theorem Template.check_of_conforms {t : Template} {p : ParamSpec} (hp : p ∈ t.parameters)
    {v : Value} (hc : ValueConforms p v) :
    ∃ ty, t.record.fields.lookup p.name = some ty ∧ ty.check v = .ok () := by
  have h := t.agrees_fields p hp
  cases hl : t.record.fields.lookup p.name with
  | none => simp [hl] at h
  | some ty => exact ⟨ty, rfl, FieldType.check_of_agrees (by simpa [hl] using h) hc⟩

end Decoding

section Entries

/-! ### Reading the entries

Where every entry has a key naming a declared field and a value of that field's type, reading the
entries either keeps them all, by name, or stops at the first field given twice. -/

namespace RecordFields

variable {decls : List (String × FieldType)}

theorem read_of_nodup {entries : List (Value × Value)}
    (hgood : ∀ e ∈ entries, ∃ n ty, e.1.asString? = some n ∧ decls.lookup n = some ty ∧
      ty.check e.2 = .ok ()) (found : List (String × Value))
    (hnd : ((found ++ named entries).map (·.1)).Nodup) :
    read decls entries found = .ok (found ++ named entries) := by
  induction entries generalizing found with
  | nil => simp [read, named]
  | cons e rest ih =>
    obtain ⟨k, v⟩ := e
    obtain ⟨n, ty, hk, hty, hc⟩ := hgood (k, v) List.mem_cons_self
    rw [named_cons hk] at hnd ⊢
    have hfresh : n ∉ found.map (·.1) := by
      rw [List.map_append, List.map_cons, List.nodup_append] at hnd
      exact fun h => hnd.2.2 n h n List.mem_cons_self rfl
    have happ : found ++ (n, v) :: named rest = (found ++ [(n, v)]) ++ named rest := by simp
    rw [happ] at hnd ⊢
    simp only [read, Value.untag_of_asString? hk, hty, List.contains_iff_mem, hfresh, hc, if_false]
    exact ih (fun e he => hgood e (List.mem_cons_of_mem _ he)) _ hnd

theorem read_of_not_nodup {entries : List (Value × Value)}
    (hgood : ∀ e ∈ entries, ∃ n ty, e.1.asString? = some n ∧ decls.lookup n = some ty ∧
      ty.check e.2 = .ok ()) (found : List (String × Value)) (hfound : (found.map (·.1)).Nodup)
    (hnd : ¬((found ++ named entries).map (·.1)).Nodup) :
    ∃ n, 1 < ((found ++ named entries).map (·.1)).count n ∧
      read decls entries found = .error ("duplicate field \x60" ++ n ++ "\x60") := by
  induction entries generalizing found with
  | nil => exact absurd (by simpa [named] using hfound) hnd
  | cons e rest ih =>
    obtain ⟨k, v⟩ := e
    obtain ⟨n, ty, hk, hty, hc⟩ := hgood (k, v) List.mem_cons_self
    rw [named_cons hk] at hnd ⊢
    by_cases hn : n ∈ found.map (·.1)
    · refine ⟨n, ?_, ?_⟩
      · have hpos := List.count_pos_iff.2 hn
        rw [List.map_append, List.map_cons, List.count_append, List.count_cons_self]
        omega
      · simp [read, Value.untag_of_asString? hk, hty, hn]
    · have happ : found ++ (n, v) :: named rest = (found ++ [(n, v)]) ++ named rest := by simp
      have hfound' : ((found ++ [(n, v)]).map (·.1)).Nodup := by
        rw [List.map_append, List.map_singleton, List.nodup_append]
        refine ⟨hfound, by simp, fun a ha b hb => ?_⟩
        rw [List.mem_singleton] at hb
        subst hb
        rintro rfl
        exact hn ha
      rw [happ] at hnd ⊢
      obtain ⟨m, hm, hread⟩ := ih (fun e he => hgood e (List.mem_cons_of_mem _ he)) _ hfound' hnd
      refine ⟨m, hm, ?_⟩
      simp only [read, Value.untag_of_asString? hk, hty, List.contains_iff_mem, hn, hc, if_false]
      exact hread

end RecordFields

end Entries

section Cleaned

/-! ### The fields of what passes

No parameter of a template has fields of its own, so what passes is the payload without its null
entries, each kept entry unchanged. -/

theorem stripItems_nil (xs : List Value) : stripItems [] xs = xs := by
  induction xs with
  | nil => rfl
  | cons x xs ih =>
    rw [stripItems, ih]
    cases x <;> rfl

theorem stripParam_of_fields_nil {p : ParamSpec} (hp : p.fields = []) (v : Value) :
    stripParam p v = v := by
  cases v <;> simp [stripParam, hp, stripItems_nil]

theorem ParamSpec.mem_of_find? {S : List ParamSpec} {n : String} {p : ParamSpec}
    (h : ParamSpec.find? S n = some p) : p ∈ S ∧ p.name = n := by
  unfold ParamSpec.find? at h
  exact ⟨List.mem_of_find?_eq_some h, by simpa using List.find?_some h⟩

theorem stripNulls_of_fields_nil {S : List ParamSpec} (hS : ∀ p ∈ S, p.fields = [])
    (es : List (Value × Value)) : stripNulls S es = es.filter fun e => !e.2.isNull := by
  induction es with
  | nil => rfl
  | cons e rest ih =>
    obtain ⟨k, v⟩ := e
    by_cases hv : v.isNull = true
    · simp [stripNulls, hv, ih]
    · rcases hp : k.asString?.bind (ParamSpec.find? S) with _ | p
      · simp [stripNulls, hv, hp, ih]
      · obtain ⟨n, -, hn⟩ := Option.bind_eq_some_iff.1 hp
        simp [stripNulls, hv, hp, ih, stripParam_of_fields_nil (hS p (ParamSpec.mem_of_find? hn).1)]

theorem Template.fields_parameters (t : Template) : ∀ p ∈ t.parameters, p.fields = [] := by
  cases t <;> simp [Template.parameters, Template.mapParameters]

/-- The fields of what passes for a schema, when a record is read from them: no name given twice,
each field of a parameter of the schema and conforming to it, and each required parameter
given. -/
structure CleanFields (S : List ParamSpec) (F : List (String × Value)) : Prop where
  nodup : (F.map (·.1)).Nodup
  conforms : ∀ f ∈ F, ∃ p ∈ S, p.name = f.1 ∧ ValueConforms p f.2
  required : ∀ p ∈ S, p.required = true → ∃ v, (p.name, v) ∈ F

variable {t : Template} {P : Value} {C : List (Value × Value)}

theorem conforms_of_validateParams (hv : validateParams t.parameters P = .ok C)
    {e : Value × Value} (he : e ∈ C) :
    ∃ n p, e.1.asString? = some n ∧ p ∈ t.parameters ∧ p.name = n ∧ ValueConforms p e.2 := by
  obtain ⟨es, -, hl, rfl⟩ := levelConforms_of_validateParams hv
  rw [stripNulls_of_fields_nil t.fields_parameters] at he
  obtain ⟨he, hnull⟩ := List.mem_filter.1 he
  rcases ((levelConforms_iff _ _).1 hl).1 e he with ⟨-, -, hn⟩ | ⟨hk, hp, hc⟩
  · simp_all
  · obtain ⟨hpS, hpn⟩ := ParamSpec.mem_of_find? hp
    exact ⟨_, _, hk, hpS, hpn, hc⟩

theorem required_of_validateParams (hv : validateParams t.parameters P = .ok C) {p : ParamSpec}
    (hp : p ∈ t.parameters) (hreq : p.required = true) : ∃ v, (Value.string p.name, v) ∈ C := by
  obtain ⟨es, -, hl, rfl⟩ := levelConforms_of_validateParams hv
  obtain ⟨v, hget, hnull⟩ := ((levelConforms_iff _ _).1 hl).2 p hp hreq
  simp only [Value.get?, Value.untag, Option.map_eq_some_iff] at hget
  obtain ⟨e, he, rfl⟩ := hget
  rw [stripNulls_of_fields_nil t.fields_parameters]
  have hk := List.find?_some he
  refine ⟨e.2, List.mem_filter.2 ⟨?_, by simp [hnull]⟩⟩
  rw [← Value.eq_string_of_isKey hk]
  exact List.mem_of_find?_eq_some he

theorem cleanFields_of_validateParams (hv : validateParams t.parameters P = .ok C)
    (hnd : ((RecordFields.named C).map (·.1)).Nodup) :
    CleanFields t.parameters (RecordFields.named C) := by
  refine ⟨hnd, ?_, fun p hp hreq => ?_⟩
  · rintro ⟨n, v⟩ hf
    obtain ⟨k, hkv, hk⟩ := mem_named.1 hf
    obtain ⟨n', p, hn', hp, hpn, hc⟩ := conforms_of_validateParams hv hkv
    rw [hk, Option.some.injEq] at hn'
    subst hn'
    exact ⟨p, hp, hpn, hc⟩
  · obtain ⟨v, hkv⟩ := required_of_validateParams hv hp hreq
    exact ⟨v, mem_named.2 ⟨_, hkv, by simp [Value.asString?, Value.untag]⟩⟩

namespace CleanFields

variable {S : List ParamSpec} {F : List (String × Value)} {n : String} {v : Value}

theorem mem_iff (hF : CleanFields S F) : (n, v) ∈ F ↔ F.lookup n = some v :=
  ⟨lookup_eq_some_of_mem hF.nodup, mem_of_lookup_eq_some⟩

theorem conforms_of_lookup (hF : CleanFields S F) (h : F.lookup n = some v) :
    ∃ p ∈ S, p.name = n ∧ ValueConforms p v :=
  hF.conforms _ (mem_of_lookup_eq_some h)

theorem lookup_of_required (hF : CleanFields S F) {p : ParamSpec} (hp : p ∈ S)
    (hreq : p.required = true) : ∃ v, F.lookup p.name = some v := by
  obtain ⟨v, hv⟩ := hF.required p hp hreq
  exact ⟨v, hF.mem_iff.1 hv⟩

theorem missing_of_required (hF : CleanFields S F) {p : ParamSpec} (hp : p ∈ S)
    (hreq : p.required = true) {α : Type} {a : α} :
    F.lookup p.name = none → (none : Option α) = some a := by
  intro h
  obtain ⟨v, hv⟩ := hF.lookup_of_required hp hreq
  rw [hv] at h
  cases h

end CleanFields

end Cleaned

section Records

/-! ### The record of what passes -/

namespace RecordFields

variable {F : List (String × Value)} {n : String}

theorem field_eq_ok {α : Type} {decode : Value → Except String α} {d? : Option α} {a : α}
    (hsome : ∀ v, F.lookup n = some v → decode v = .ok a)
    (hnone : F.lookup n = none → d? = some a) : field decode F n d? = .ok a := by
  unfold field
  cases h : F.lookup n with
  | some v => exact hsome v h
  | none => simp [hnone h]

end RecordFields

namespace CleanFields

variable {t : Template} {F : List (String × Value)} {ty : FieldType} {v : Value}

theorem agrees_of_lookup (hF : CleanFields t.parameters F) {n : String}
    (hty : t.record.fields.lookup n = some ty) (h : F.lookup n = some v) :
    ∃ p, ty.agrees p = true ∧ ValueConforms p v := by
  obtain ⟨p, hp, rfl, hc⟩ := hF.conforms_of_lookup h
  have ha := t.agrees_fields p hp
  rw [hty] at ha
  exact ⟨p, by simpa using ha, hc⟩

theorem field_text (hF : CleanFields t.parameters F) (n : String)
    (hty : t.record.fields.lookup n = some .text) {d? : Option String}
    (hd : F.lookup n = none → d? = some "") :
    RecordFields.field RecordFields.decodeText F n d? = .ok (RecordFields.text F n) := by
  refine RecordFields.field_eq_ok (fun v h => ?_) (fun h => by simp [RecordFields.text, h, hd h])
  obtain ⟨p, ha, hc⟩ := hF.agrees_of_lookup hty h
  obtain ⟨s, rfl⟩ := hc.eq_string (by simpa [FieldType.agrees] using ha)
  rw [RecordFields.text_of_lookup h]
  rfl

theorem field_int (hF : CleanFields t.parameters F) (n : String)
    (hty : t.record.fields.lookup n = some .int) {d? : Option Int}
    (hd : F.lookup n = none → d? = some 0) :
    RecordFields.field RecordFields.decodeInt F n d? = .ok ((RecordFields.int? F n).getD 0) := by
  refine RecordFields.field_eq_ok (fun v h => ?_) (fun h => by simp [RecordFields.int?, h, hd h])
  obtain ⟨p, ha, hc⟩ := hF.agrees_of_lookup hty h
  obtain ⟨m, i, rfl, hi⟩ := hc.eq_number (by simpa [FieldType.agrees] using ha)
  rw [RecordFields.int?_of_lookup h, hi, RecordFields.decodeInt_number hi]
  rfl

theorem field_optionalInt (hF : CleanFields t.parameters F) (n : String)
    (hty : t.record.fields.lookup n = some .optionalInt) :
    RecordFields.field RecordFields.decodeOptionalInt F n (some none) =
      .ok (RecordFields.int? F n) := by
  refine RecordFields.field_eq_ok (fun v h => ?_) (fun h => by simp [RecordFields.int?, h])
  obtain ⟨p, ha, hc⟩ := hF.agrees_of_lookup hty h
  obtain ⟨m, i, rfl, hi⟩ := hc.eq_number (by simpa [FieldType.agrees] using ha)
  rw [RecordFields.int?_of_lookup h, hi]
  simp only [RecordFields.decodeOptionalInt, RecordFields.decodeInt_number hi]
  rfl

theorem field_texts (hF : CleanFields t.parameters F) (n : String)
    (hty : t.record.fields.lookup n = some .texts) {d? : Option (List String)}
    (hd : F.lookup n = none → d? = some []) :
    RecordFields.field RecordFields.decodeTexts F n d? = .ok (RecordFields.texts F n) := by
  refine RecordFields.field_eq_ok (fun v h => ?_) (fun h => by simp [RecordFields.texts, h, hd h])
  obtain ⟨p, ha, hc⟩ := hF.agrees_of_lookup hty h
  simp only [FieldType.agrees, Bool.and_eq_true, beq_iff_eq] at ha
  obtain ⟨l, rfl⟩ := hc.eq_strings ha.1 ha.2
  rw [RecordFields.texts_of_lookup h, RecordFields.decodeTexts_strings]

end CleanFields

variable {t : Template} {F : List (String × Value)}

theorem Template.build_ofFields (hF : CleanFields t.parameters F) :
    t.record.build F = .ok (t.record.ofFields F) := by
  cases t
  case requiredLabel | requiredAnnotation =>
    simp only [Template.record, RecordKind.build, RecordKind.ofFields,
      hF.field_text "key" rfl (hF.missing_of_required List.mem_cons_self rfl),
      hF.field_text "value" rfl fun _ => rfl]
    rfl
  case latestTag =>
    simp only [Template.record, RecordKind.build, RecordKind.ofFields,
      hF.field_texts "blockList" rfl fun _ => rfl, hF.field_texts "allowList" rfl fun _ => rfl]
    rfl
  case privileged => rfl
  case envVar =>
    simp only [Template.record, RecordKind.build, RecordKind.ofFields,
      hF.field_text "name" rfl fun _ => rfl, hF.field_text "value" rfl fun _ => rfl]
    rfl
  case minimumReplicas =>
    simp only [Template.record, RecordKind.build, RecordKind.ofFields,
      hF.field_int "minReplicas" rfl (hF.missing_of_required List.mem_cons_self rfl)]
    rfl
  case cpuRequirements =>
    simp only [Template.record, RecordKind.build, RecordKind.ofFields,
      hF.field_text "requirementsType" rfl (hF.missing_of_required List.mem_cons_self rfl),
      hF.field_int "lowerBoundMillis" rfl fun _ => rfl,
      hF.field_optionalInt "upperBoundMillis" rfl]
    rfl
  case disallowedApiObject =>
    simp only [Template.record, RecordKind.build, RecordKind.ofFields,
      hF.field_text "group" rfl fun _ => rfl, hF.field_text "version" rfl fun _ => rfl,
      hF.field_text "kind" rfl fun _ => rfl]
    rfl
  case danglingService =>
    simp only [Template.record, RecordKind.build, RecordKind.ofFields,
      hF.field_texts "ignoredLabels" rfl fun _ => rfl]
    rfl

theorem Template.names_ofFields (t : Template) (F : List (String × Value)) :
    (t.record.ofFields F).fields.map (·.1) = t.parameters.map (·.name) := by
  cases t <;> rfl

theorem ofFields_field?_of_lookup_none (t : Template) {p : ParamSpec} (hp : p ∈ t.parameters)
    (hl : F.lookup p.name = none) :
    (t.record.ofFields F).field? p.name =
      (t.record.fields.lookup p.name).map FieldType.defaultValue := by
  cases t <;> simp only [Template.parameters, Template.mapParameters, List.mem_cons,
    List.not_mem_nil, or_false] at hp
  all_goals
    rcases hp with rfl | rfl | rfl <;>
    dsimp only at hl ⊢ <;>
    simp [Template.record, RecordKind.ofFields, RecordKind.fields, TemplateParams.field?,
      TemplateParams.fields, List.lookup_cons, FieldType.defaultValue, RecordFields.text,
      RecordFields.texts, RecordFields.int?, hl]

theorem ofFields_field?_of_lookup_some (t : Template) {p : ParamSpec} (hp : p ∈ t.parameters)
    {v : Value} (hl : F.lookup p.name = some v) (ha : p.type.accepts v = true) :
    (t.record.ofFields F).field? p.name = FieldValue.ofValue v := by
  cases t <;> simp only [Template.parameters, Template.mapParameters, List.mem_cons,
    List.not_mem_nil, or_false] at hp
  all_goals
    rcases hp with rfl | rfl | rfl <;>
    dsimp only at hl ha ⊢ <;>
    cases v <;> simp [ParamType.accepts] at ha <;>
    simp [Template.record, RecordKind.ofFields, TemplateParams.field?, TemplateParams.fields,
      List.lookup_cons, RecordFields.text, RecordFields.texts, RecordFields.int?, hl,
      FieldValue.ofValue, Value.asInt?, Value.untag]
  all_goals
    obtain ⟨i, hi⟩ := Option.isSome_iff_exists.1 ha
    simp [hi]

end Records

section Reading

/-! ### Reading a template's parameters -/

variable {t : Template} {P : Value} {C : List (Value × Value)}

theorem Template.readParams_of_ok (hv : validateParams t.parameters P = .ok C) :
    t.readParams P = t.record.read C := by
  simp [Template.readParams, ManifestLint.readParams, hv, bind, Except.bind]

theorem Template.readParams_of_error {e : ParamsError}
    (hv : validateParams t.parameters P = .error e) : t.readParams P = .error e := by
  simp [Template.readParams, ManifestLint.readParams, hv, bind, Except.bind]

theorem Template.find?_parameters {p : ParamSpec} (hp : p ∈ t.parameters) :
    ParamSpec.find? t.parameters p.name = some p := by
  cases t <;> simp only [Template.parameters, Template.mapParameters, List.mem_cons,
    List.not_mem_nil, or_false] at hp
  all_goals rcases hp with rfl | rfl | rfl <;> rfl

theorem Template.readable_of_validateParams (hv : validateParams t.parameters P = .ok C)
    {e : Value × Value} (he : e ∈ C) :
    ∃ n ty, e.1.asString? = some n ∧ t.record.fields.lookup n = some ty ∧ ty.check e.2 = .ok () := by
  obtain ⟨n, p, hn, hp, rfl, hc⟩ := conforms_of_validateParams hv he
  obtain ⟨ty, hty, hck⟩ := Template.check_of_conforms hp hc
  exact ⟨p.name, ty, hn, hty, hck⟩

/-- What passes, with no two keys naming one field, is read into the record of its fields. -/
theorem Template.read_of_nodup (hv : validateParams t.parameters P = .ok C)
    (hnd : ((RecordFields.named C).map (·.1)).Nodup) :
    t.record.read C = .ok (t.record.ofFields (RecordFields.named C)) := by
  have hread : RecordFields.read t.record.fields C [] = .ok (RecordFields.named C) := by
    simpa using RecordFields.read_of_nodup (fun e he => Template.readable_of_validateParams hv he)
      [] (by simpa using hnd)
  simp only [RecordKind.read, hread, bind, Except.bind,
    Template.build_ofFields (cleanFields_of_validateParams hv hnd)]
  rfl

/-- What passes with two keys naming one field is refused, naming a field named twice. -/
theorem Template.read_of_not_nodup (hv : validateParams t.parameters P = .ok C)
    (hnd : ¬((RecordFields.named C).map (·.1)).Nodup) :
    ∃ n, 1 < ((RecordFields.named C).map (·.1)).count n ∧
      t.record.read C = .error ⟨[.undecodable ("duplicate field \x60" ++ n ++ "\x60")]⟩ := by
  obtain ⟨n, hcount, hread⟩ := RecordFields.read_of_not_nodup
    (fun e he => Template.readable_of_validateParams hv he) [] List.nodup_nil (by simpa using hnd)
  refine ⟨n, by simpa using hcount, ?_⟩
  simp only [RecordKind.read, hread, bind, Except.bind]
  rfl

theorem nodup_of_readParams (hv : validateParams t.parameters P = .ok C) {rec : TemplateParams}
    (hrec : t.readParams P = .ok rec) : ((RecordFields.named C).map (·.1)).Nodup := by
  by_cases hnd : ((RecordFields.named C).map (·.1)).Nodup
  · exact hnd
  · obtain ⟨n, -, herr⟩ := Template.read_of_not_nodup hv hnd
    rw [Template.readParams_of_ok hv, herr] at hrec
    cases hrec

theorem ofFields_named_field? (hv : validateParams t.parameters P = .ok C)
    (hnd : ((RecordFields.named C).map (·.1)).Nodup) {p : ParamSpec} (hp : p ∈ t.parameters) :
    (∀ k v, (k, v) ∈ C → k.asString? = some p.name →
      (t.record.ofFields (RecordFields.named C)).field? p.name = FieldValue.ofValue v) ∧
    ((∀ k v, (k, v) ∈ C → k.asString? ≠ some p.name) →
      (t.record.ofFields (RecordFields.named C)).field? p.name =
        (t.record.fields.lookup p.name).map FieldType.defaultValue) := by
  refine ⟨fun k v hkv hk => ?_,
    fun habsent => ofFields_field?_of_lookup_none t hp (lookup_named_eq_none habsent)⟩
  have hl := lookup_eq_some_of_mem hnd (mem_named.2 ⟨k, hkv, hk⟩)
  obtain ⟨n, q, hn, hq, hqn, hc⟩ := conforms_of_validateParams hv hkv
  rw [hk, Option.some.injEq] at hn
  subst hn
  have hqp : q = p := by
    have hfind := Template.find?_parameters hp
    rw [← hqn, Template.find?_parameters hq, Option.some.injEq] at hfind
    exact hfind
  subst hqp
  exact ofFields_field?_of_lookup_some t hp hl hc.accepts

/-- Reading a template's parameters. An error of validation is passed on unchanged. A record is
read exactly when validation passes and no two of the keys kept name one field; two that do are
refused with the name of that field, so no key naming no field, no value of the wrong type and no
missing field ever reaches the record. A record read has one field for each parameter of the
schema, in the schema's order, holding what the entry naming it reads as, or when no entry does
the default of the field's type. -/
theorem readParams_reads_fields (t : Template) (P : Value) :
    (∀ e, validateParams t.parameters P = .error e → t.readParams P = .error e) ∧
    ((∃ rec, t.readParams P = .ok rec) ↔
      ∃ cleaned, validateParams t.parameters P = .ok cleaned ∧
        ((RecordFields.named cleaned).map (·.1)).Nodup) ∧
    (∀ cleaned, validateParams t.parameters P = .ok cleaned →
      ¬((RecordFields.named cleaned).map (·.1)).Nodup →
      ∃ n, 1 < ((RecordFields.named cleaned).map (·.1)).count n ∧
        t.readParams P = .error ⟨[.undecodable ("duplicate field \x60" ++ n ++ "\x60")]⟩) ∧
    (∀ cleaned rec, validateParams t.parameters P = .ok cleaned → t.readParams P = .ok rec →
      rec.fields.map (·.1) = t.parameters.map (·.name) ∧
      ∀ p ∈ t.parameters,
        (∀ k v, (k, v) ∈ cleaned → k.asString? = some p.name →
          rec.field? p.name = FieldValue.ofValue v) ∧
        ((∀ k v, (k, v) ∈ cleaned → k.asString? ≠ some p.name) →
          rec.field? p.name = (t.record.fields.lookup p.name).map FieldType.defaultValue)) := by
  refine ⟨fun e hv => Template.readParams_of_error hv, ⟨?_, ?_⟩, ?_, ?_⟩
  · rintro ⟨rec, hrec⟩
    cases hv : validateParams t.parameters P with
    | error e => rw [Template.readParams_of_error hv] at hrec; cases hrec
    | ok cleaned => exact ⟨cleaned, rfl, nodup_of_readParams hv hrec⟩
  · rintro ⟨cleaned, hv, hnd⟩
    exact ⟨_, by rw [Template.readParams_of_ok hv, Template.read_of_nodup hv hnd]⟩
  · intro cleaned hv hnd
    rw [Template.readParams_of_ok hv]
    exact Template.read_of_not_nodup hv hnd
  · intro cleaned rec hv hrec
    have hnd := nodup_of_readParams hv hrec
    rw [Template.readParams_of_ok hv, Template.read_of_nodup hv hnd, Except.ok.injEq] at hrec
    subst hrec
    exact ⟨Template.names_ofFields _ _, fun p hp => ofFields_named_field? hv hnd hp⟩

/-- Two keys naming the field `key`, one of them through a tag, pass validation, and the record
refuses them. -/
theorem requiredLabel_key_given_twice :
    validateParams Template.requiredLabel.parameters
        (.mapping [(.string "key", .string "a"), (.tagged "!t" (.string "key"), .string "b")]) =
      .ok [(.string "key", .string "a"), (.tagged "!t" (.string "key"), .string "b")] ∧
    Template.requiredLabel.readParams
        (.mapping [(.string "key", .string "a"), (.tagged "!t" (.string "key"), .string "b")]) =
      .error ⟨[.undecodable "duplicate field \x60key\x60"]⟩ := by
  have hv : validateParams Template.requiredLabel.parameters
      (.mapping [(.string "key", .string "a"), (.tagged "!t" (.string "key"), .string "b")]) =
      .ok [(.string "key", .string "a"), (.tagged "!t" (.string "key"), .string "b")] := by
    simp [validateParams, checkMapping, checkEntries, checkParam, checkType, missingFields,
      Template.parameters, Template.mapParameters, ParamSpec.find?, Value.asString?, Value.untag,
      Value.get?, Value.isKey, Value.isNull, ParamType.accepts]
  exact ⟨hv, by rw [Template.readParams_of_ok hv]; rfl⟩

end Reading

end ManifestLint
