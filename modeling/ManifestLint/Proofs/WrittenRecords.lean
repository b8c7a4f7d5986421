import Mathlib.Data.List.Nodup
import ManifestLint.Proofs.NullEntries
import ManifestLint.Proofs.ParameterRecords
import ManifestLint.Proofs.IgnoreAnnotations
import ManifestLint.Proofs.NormalNumbers

/-! # Writing parameter records back

The records of the required-map, latest-tag and minimum-replicas templates can be written back as
YAML values. Written back, the record read from a payload that passes is the mapping that passed,
up to the order of its entries, once two things are undone (`written_record_matches_cleaned`):
a key written with a tag is written plain, and an entry holding a default that the record skips
(an empty `value`, an empty list) is not written at all. So the two are equal exactly when no key
of what passed has a tag and no entry holds such a default.

Numbers are taken as reading writes them, an integer negative only below zero, so an integer is
written back as the number it was read as. Reading a configuration writes them so in the parameters
of every check it defines, where the same holds with no hypothesis on numbers
(`configured_record_matches_cleaned`).
-/

namespace ManifestLint

open Yaml

section Same

/-! ### Mappings from plain names -/

theorem Yaml.Value.sameEntries_iff {xs ys : List (Value × Value)} :
    Value.sameEntries xs ys = true ↔ ∀ e ∈ xs, Value.sameEntry e ys = true := by
  induction xs with
  | nil => simp [Value.sameEntries]
  | cons e xs ih => simp [Value.sameEntries, ih]

theorem Yaml.Value.same_string_iff {s : String} {v : Value} :
    (Value.string s).same v = true ↔ v = .string s := by
  constructor
  · intro h
    cases v <;> simp only [Value.same, beq_iff_eq] at h <;> first | (subst h; rfl) | cases h
  · rintro rfl
    simp [Value.same]

theorem Yaml.Value.sameItems_strings (l : List String) :
    Value.sameItems (l.map .string) (l.map .string) = true := by
  induction l with
  | nil => simp [Value.sameItems]
  | cons s l ih => simp [Value.sameItems, Value.same, ih]

theorem find?_name_of_lookup {fields : List (String × Value)} {n : String} {v : Value}
    (h : fields.lookup n = some v) : fields.find? (fun f => n == f.1) = some (n, v) := by
  induction fields with
  | nil => cases h
  | cons f fields ih =>
    obtain ⟨m, w⟩ := f
    by_cases hm : n = m
    · subst hm
      simp_all
    · have hb : (n == m) = false := by simpa using hm
      simp only [List.lookup_cons, hb] at h
      simp only [List.find?_cons, hb]
      exact ih h

/-- Two lists of fields, one a reordering of the other, make mappings from plain names that compare
as the same, when no name is given twice and each value is the same as itself. -/
theorem same_mapping_of_perm {xs ys : List (String × Value)} (hp : xs.Perm ys)
    (hnd : (ys.map (·.1)).Nodup) (hv : ∀ f ∈ xs, f.2.same f.2 = true) :
    (Value.mapping (xs.map fun f => (.string f.1, f.2))).same
      (.mapping (ys.map fun f => (.string f.1, f.2))) = true := by
  simp only [Value.same, List.length_map, hp.length_eq, beq_self_eq_true, Bool.true_and,
    Value.sameEntries_iff, List.mem_map]
  rintro _ ⟨⟨n, v⟩, hf, rfl⟩
  have hl : ys.lookup n = some v := lookup_eq_some_of_mem hnd (hp.subset hf)
  have hfind : ys.find? (fun f => (Value.string n).same (.string f.1)) = some (n, v) := by
    simpa [Value.same] using find?_name_of_lookup hl
  simp only [Value.sameEntry, List.find?_map, Function.comp_def, hfind, Option.map_some]
  exact hv _ hf

end Same

section Cleaned

/-! ### What passes -/

variable {t : Template} {P : Value} {C : List (Value × Value)} {r : TemplateParams}

theorem mem_payload_of_validateParams (hv : validateParams t.parameters P = .ok C)
    {e : Value × Value} (he : e ∈ C) : ∃ es, P = .mapping es ∧ e ∈ es := by
  obtain ⟨es, hP, -, rfl⟩ := levelConforms_of_validateParams hv
  rw [stripNulls_of_fields_nil t.fields_parameters] at he
  rcases hP with ⟨-, rfl⟩ | rfl
  · simp at he
  · exact ⟨es, rfl, (List.mem_filter.1 he).1⟩

theorem validateParams_mapParameters_strings (field a b : String) :
    validateParams (Template.mapParameters field)
        (.mapping [(.string "key", .string a), (.string "value", .string b)]) =
      .ok [(.string "key", .string a), (.string "value", .string b)] := by
  simp [validateParams, checkMapping, checkEntries, checkParam, checkType, missingFields,
    Template.mapParameters, ParamSpec.find?, Value.asString?, Value.untag, Value.get?, Value.isKey,
    Value.isNull, ParamType.accepts]

end Cleaned

section Writing

/-! ### What each record writes -/

/-- Whether a record of a kind skips a field, holding a default it does not write: an empty
`value` of a required-map record, an empty list of a latest-tag record. -/
def RecordKind.skips : RecordKind → String × Value → Bool
  | .requiredMap, (n, .string s) => n == "value" && s.isEmpty
  | .latestTag, (_, .sequence items) => items.isEmpty
  | _, _ => false

variable {F : List (String × Value)}

theorem mem_written_field {X : Type} {m : String} (x : X) (write : X → Value)
    (hx : ∀ v, F.lookup m = some v → write x = v) (hsome : ∃ v, F.lookup m = some v)
    (n : String) (v : Value) :
    (n, v) ∈ [(m, write x)] ↔ n = m ∧ F.lookup m = some v := by
  obtain ⟨w, hw⟩ := hsome
  simp [hw, hx w hw, eq_comm]

theorem mem_skipped_field {X : Type} {m : String} (x : X) (write : X → Value) (skip : X → Bool)
    (hx : ∀ v, F.lookup m = some v → write x = v) (hnone : F.lookup m = none → skip x = true)
    (n : String) (v : Value) :
    (n, v) ∈ (if skip x then [] else [(m, write x)]) ↔
      n = m ∧ F.lookup m = some v ∧ skip x = false := by
  cases h : F.lookup m with
  | none => simp [hnone h]
  | some w =>
    cases hs : skip x
    · simp [hx w h, eq_comm]
    · simp

theorem mem_written?_requiredMap {field : String}
    (hF : CleanFields (Template.mapParameters field) F) :
    ∃ W, (RecordKind.requiredMap.ofFields F).written? = some W ∧
      ∀ n v, (n, v) ∈ W ↔ F.lookup n = some v ∧ RecordKind.requiredMap.skips (n, v) = false := by
  have hstr {n v} (h : F.lookup n = some v) : ∃ s, v = .string s := by
    obtain ⟨p, hp, -, hc⟩ := hF.conforms_of_lookup h
    simp only [Template.mapParameters, List.mem_cons, List.not_mem_nil, or_false] at hp
    rcases hp with rfl | rfl <;> exact hc.eq_string rfl
  have hwrite (n : String) : ∀ v, F.lookup n = some v → Value.string (RecordFields.text F n) = v := by
    intro v h
    obtain ⟨s, rfl⟩ := hstr h
    rw [RecordFields.text_of_lookup h]
  have hnone : F.lookup "value" = none → (RecordFields.text F "value").isEmpty = true := by
    intro h
    simp [RecordFields.text, h]
  refine ⟨_, rfl, fun n v => ?_⟩
  simp only [List.mem_append]
  rw [mem_written_field _ _ (hwrite "key") (hF.lookup_of_required List.mem_cons_self rfl),
    mem_skipped_field _ _ _ (hwrite "value") hnone]
  constructor
  · rintro (⟨rfl, h⟩ | ⟨rfl, h, hs⟩)
    · obtain ⟨s, rfl⟩ := hstr h
      exact ⟨h, rfl⟩
    · obtain ⟨s, rfl⟩ := hstr h
      rw [RecordFields.text_of_lookup h] at hs
      exact ⟨h, by simp [RecordKind.skips, hs]⟩
  · rintro ⟨h, hs⟩
    obtain ⟨p, hp, rfl, -⟩ := hF.conforms_of_lookup h
    simp only [Template.mapParameters, List.mem_cons, List.not_mem_nil, or_false] at hp
    rcases hp with rfl | rfl
    · exact .inl ⟨rfl, h⟩
    · obtain ⟨s, rfl⟩ := hstr h
      refine .inr ⟨rfl, h, ?_⟩
      rw [RecordFields.text_of_lookup h]
      simpa [RecordKind.skips] using hs

theorem mem_written?_latestTag (hF : CleanFields Template.latestTag.parameters F) :
    ∃ W, (RecordKind.latestTag.ofFields F).written? = some W ∧
      ∀ n v, (n, v) ∈ W ↔ F.lookup n = some v ∧ RecordKind.latestTag.skips (n, v) = false := by
  have hlist {n v} (h : F.lookup n = some v) : ∃ l : List String, v = .sequence (l.map .string) := by
    obtain ⟨p, hp, -, hc⟩ := hF.conforms_of_lookup h
    simp only [Template.parameters, List.mem_cons, List.not_mem_nil, or_false] at hp
    rcases hp with rfl | rfl <;> exact hc.eq_strings rfl rfl
  have hwrite (n : String) : ∀ v, F.lookup n = some v →
      Value.sequence ((RecordFields.texts F n).map .string) = v := by
    intro v h
    obtain ⟨l, rfl⟩ := hlist h
    rw [RecordFields.texts_of_lookup h]
  have hnone (n : String) : F.lookup n = none → (RecordFields.texts F n).isEmpty = true := by
    intro h
    simp [RecordFields.texts, h]
  refine ⟨_, rfl, fun n v => ?_⟩
  simp only [List.mem_append]
  simp only [mem_skipped_field (RecordFields.texts F _) (fun l => .sequence (l.map .string))
    List.isEmpty (hwrite _) (hnone _)]
  have hskip {n v} (h : F.lookup n = some v) :
      (RecordFields.texts F n).isEmpty = RecordKind.latestTag.skips (n, v) := by
    obtain ⟨l, rfl⟩ := hlist h
    simp [RecordFields.texts_of_lookup h, RecordKind.skips]
  constructor
  · rintro (⟨rfl, h, hs⟩ | ⟨rfl, h, hs⟩) <;> exact ⟨h, hskip h ▸ hs⟩
  · rintro ⟨h, hs⟩
    obtain ⟨p, hp, rfl, -⟩ := hF.conforms_of_lookup h
    simp only [Template.parameters, List.mem_cons, List.not_mem_nil, or_false] at hp
    rcases hp with rfl | rfl
    · exact .inl ⟨rfl, h, (hskip h).symm ▸ hs⟩
    · exact .inr ⟨rfl, h, (hskip h).symm ▸ hs⟩

theorem mem_written?_minimumReplicas (hF : CleanFields Template.minimumReplicas.parameters F)
    (hnum : ∀ f ∈ F, ∀ m, f.2 = .number m → m.Normal) :
    ∃ W, (RecordKind.minimumReplicas.ofFields F).written? = some W ∧
      ∀ n v, (n, v) ∈ W ↔
        F.lookup n = some v ∧ RecordKind.minimumReplicas.skips (n, v) = false := by
  have hwrite : ∀ v, F.lookup "minReplicas" = some v →
      Value.number (.ofInt ((RecordFields.int? F "minReplicas").getD 0)) = v := by
    intro v h
    obtain ⟨p, hp, -, hc⟩ := hF.conforms_of_lookup h
    simp only [Template.parameters, List.mem_cons, List.not_mem_nil, or_false] at hp
    subst hp
    obtain ⟨m, i, rfl, hi⟩ := hc.eq_number rfl
    have hm : m.Normal := hnum _ (mem_of_lookup_eq_some h) m rfl
    rw [RecordFields.int?_of_lookup h, hi, Option.getD_some, Number.ofInt_of_asInt? hm hi]
  refine ⟨_, rfl, fun n v => ?_⟩
  rw [mem_written_field _ _ hwrite (hF.lookup_of_required List.mem_cons_self rfl)]
  constructor
  · rintro ⟨rfl, h⟩
    exact ⟨h, rfl⟩
  · rintro ⟨h, -⟩
    obtain ⟨p, hp, rfl, -⟩ := hF.conforms_of_lookup h
    simp only [Template.parameters, List.mem_cons, List.not_mem_nil, or_false] at hp
    subst hp
    exact ⟨rfl, h⟩

end Writing

section Records

/-! ### Records written back -/

namespace TemplateParams

variable {r : TemplateParams} {W : List (String × Value)}

theorem nodup_written? (h : r.written? = some W) : (W.map (·.1)).Nodup := by
  cases r <;> simp only [written?, Option.some.injEq, reduceCtorEq] at h <;> subst h <;>
    repeat' split
  all_goals simp

theorem same_written? (h : r.written? = some W) : ∀ f ∈ W, f.2.same f.2 = true := by
  have hstring (s : String) : (Value.string s).same (.string s) = true := Value.same_string_iff.2 rfl
  have hnumber (i : Int) : (Value.number (.ofInt i)).same (.number (.ofInt i)) = true := by
    unfold Number.ofInt
    split <;> simp [Value.same, Number.same]
  have hstrings (l : List String) :
      (Value.sequence (l.map .string)).same (.sequence (l.map .string)) = true := by
    simpa [Value.same] using Value.sameItems_strings l
  cases r <;> simp only [written?, Option.some.injEq, reduceCtorEq] at h <;> subst h <;>
    repeat' split
  all_goals simp [hstring, hnumber, hstrings]

end TemplateParams

variable {F : List (String × Value)}

/-- The three records that are written back write exactly the fields they were read from, but
those holding a default they skip. -/
theorem mem_written?_ofFields (t : Template)
    (ht : t.record = .requiredMap ∨ t.record = .latestTag ∨ t.record = .minimumReplicas)
    (hF : CleanFields t.parameters F) (hnum : ∀ f ∈ F, ∀ m, f.2 = .number m → m.Normal) :
    ∃ W, (t.record.ofFields F).written? = some W ∧
      ∀ n v, (n, v) ∈ W ↔ F.lookup n = some v ∧ t.record.skips (n, v) = false := by
  cases t
  case requiredLabel => exact mem_written?_requiredMap hF
  case requiredAnnotation => exact mem_written?_requiredMap hF
  case latestTag => exact mem_written?_latestTag hF
  case minimumReplicas => exact mem_written?_minimumReplicas hF hnum
  all_goals simp [Template.record] at ht

theorem map_filter_named_of_plain {keep : String × Value → Bool} :
    ∀ {C : List (Value × Value)}, (∀ k v, (k, v) ∈ C → ∃ n, k = .string n ∧ keep (n, v) = true) →
      ((RecordFields.named C).filter keep).map (fun f => (.string f.1, f.2)) = C
  | [], _ => rfl
  | (k, v) :: rest, h => by
    obtain ⟨n, rfl, hk⟩ := h k v List.mem_cons_self
    have ih := map_filter_named_of_plain fun k' v' h' => h k' v' (List.mem_cons_of_mem _ h')
    simpa [RecordFields.named, Value.asString?, Value.untag, hk] using ih

theorem length_named {C : List (Value × Value)} (h : ∀ e ∈ C, e.1.asString?.isSome) :
    (RecordFields.named C).length = C.length := by
  simp only [RecordFields.named, List.filterMap_length_eq_length]
  rintro ⟨k, v⟩ hkv
  simpa using h _ hkv

theorem eq_of_asString?_eq {C : List (Value × Value)}
    (hnd : ((RecordFields.named C).map (·.1)).Nodup) {e e' : Value × Value} (he : e ∈ C)
    (he' : e' ∈ C) {n : String} (hn : e.1.asString? = some n) (hn' : e'.1.asString? = some n) :
    e = e' := by
  induction C with
  | nil => cases he
  | cons d C ih =>
    obtain ⟨k, v⟩ := d
    have hrest : ((RecordFields.named C).map (·.1)).Nodup ∧
        ∀ m, k.asString? = some m → m ∉ (RecordFields.named C).map (·.1) := by
      rcases hk : k.asString? with _ | m
      · simpa [RecordFields.named, hk] using hnd
      · simp only [RecordFields.named, List.filterMap_cons, hk, Option.map_some, List.map_cons,
          List.nodup_cons] at hnd
        exact ⟨hnd.2, fun m' hm' => by cases hm'; exact hnd.1⟩
    have hnamed {x : Value × Value} (hx : x ∈ C) (hxn : x.1.asString? = some n) :
        n ∈ (RecordFields.named C).map (·.1) :=
      List.mem_map.2 ⟨(n, x.2), mem_named.2 ⟨x.1, hx, hxn⟩, rfl⟩
    rcases List.mem_cons.1 he with rfl | he <;> rcases List.mem_cons.1 he' with rfl | he'
    · rfl
    · exact absurd (hnamed he' hn') (hrest.2 n hn)
    · exact absurd (hnamed he hn) (hrest.2 n hn')
    · exact ih hrest.1 he he'

theorem normal_fields_of_validateParams {t : Template} {P : Value} {C : List (Value × Value)}
    (hv : validateParams t.parameters P = .ok C)
    (hP : ∀ es, P = .mapping es → ∀ k m, (k, Value.number m) ∈ es → m.Normal) :
    ∀ f ∈ RecordFields.named C, ∀ m, f.2 = .number m → m.Normal := by
  rintro ⟨n, v⟩ hf m rfl
  obtain ⟨k, hkv, -⟩ := mem_named.1 hf
  obtain ⟨es, rfl, hes⟩ := mem_payload_of_validateParams hv hkv
  exact hP es rfl k m hes

theorem written_record_of_normal_fields (t : Template)
    (ht : t.record = .requiredMap ∨ t.record = .latestTag ∨ t.record = .minimumReplicas)
    {P : Value} {C : List (Value × Value)} (hv : validateParams t.parameters P = .ok C)
    {r : TemplateParams} (hr : t.readParams P = .ok r)
    (hnum : ∀ f ∈ RecordFields.named C, ∀ m, f.2 = .number m → m.Normal) :
    ∃ w, r.toValue? = some w ∧
      w.same (.mapping (((RecordFields.named C).filter fun f => !t.record.skips f).map
        fun f => (.string f.1, f.2))) = true ∧
      (w.same (.mapping C) = true ↔
        ∀ k v, (k, v) ∈ C → ∃ n, k = .string n ∧ t.record.skips (n, v) = false) := by
  have hF := cleanFields_of_validateParams hv (nodup_of_readParams hv hr)
  have hrec : r = t.record.ofFields (RecordFields.named C) := by
    rw [Template.readParams_of_ok hv, Template.read_of_nodup hv hF.nodup, Except.ok.injEq] at hr
    exact hr.symm
  obtain ⟨W, hW, hmem⟩ := mem_written?_ofFields t ht hF hnum
  set G := (RecordFields.named C).filter fun f => !t.record.skips f
  have hperm : W.Perm G := by
    rw [List.perm_ext_iff_of_nodup (List.Nodup.of_map _ (TemplateParams.nodup_written? hW))
      ((List.Nodup.of_map _ hF.nodup).filter _)]
    rintro ⟨n, v⟩
    rw [hmem, List.mem_filter, hF.mem_iff]
    simp
  have hGnd : (G.map (·.1)).Nodup := (List.filter_sublist.map _).nodup hF.nodup
  have hsame := same_mapping_of_perm hperm hGnd (TemplateParams.same_written? hW)
  refine ⟨_, by rw [hrec, TemplateParams.toValue?, hW]; rfl, hsame, fun hC => ?_, fun hall => ?_⟩
  · intro k v hkv
    simp only [Value.same, Bool.and_eq_true, beq_iff_eq, Value.sameEntries_iff,
      List.length_map] at hC
    obtain ⟨hlen, hent⟩ := hC
    have hnamed : ∀ e ∈ C, e.1.asString?.isSome := fun e he => by
      obtain ⟨n, p, hn, -⟩ := conforms_of_validateParams hv he
      simp [hn]
    obtain ⟨n, hn⟩ := Option.isSome_iff_exists.1 (hnamed _ hkv)
    have hf : (n, v) ∈ RecordFields.named C := mem_named.2 ⟨k, hkv, hn⟩
    have hkept : t.record.skips (n, v) = false := by
      by_cases hs : t.record.skips (n, v) = false
      · exact hs
      · have hlt : G.length < (RecordFields.named C).length :=
          List.length_filter_lt_length_iff_exists.2 ⟨_, hf, by simpa using hs⟩
        rw [length_named hnamed, ← hlen, hperm.length_eq] at hlt
        exact absurd hlt (Nat.lt_irrefl _)
    have hw : (Value.string n, v) ∈ W.map fun f => (.string f.1, f.2) :=
      List.mem_map.2 ⟨(n, v), hperm.symm.subset (List.mem_filter.2 ⟨hf, by simp [hkept]⟩), rfl⟩
    have hse := hent _ hw
    simp only [Value.sameEntry] at hse
    split at hse
    · rename_i e' he'
      have hfound := List.find?_some he'
      have hk' : e'.1 = .string n := Value.same_string_iff.1 hfound
      have he : (k, v) = e' := eq_of_asString?_eq hF.nodup hkv (List.mem_of_find?_eq_some he') hn
        (by rw [hk']; rfl)
      exact ⟨n, (congrArg Prod.fst he).trans hk', hkept⟩
    · cases hse
  · have hplain : G.map (fun f => (Value.string f.1, f.2)) = C :=
      map_filter_named_of_plain fun k v h => by
        obtain ⟨n, rfl, hs⟩ := hall k v h
        exact ⟨n, rfl, by simp [hs]⟩
    rw [hplain] at hsame
    exact hsame

/-- A record read from a payload that passes, written back, is what passed up to the order of its
entries, once the tags on its keys are dropped and the entries holding a default the record skips
are left out. So it is what passed exactly when no key has a tag and no entry holds such a default.
Numbers are taken as reading writes them. -/
theorem written_record_matches_cleaned (t : Template)
    (ht : t.record = .requiredMap ∨ t.record = .latestTag ∨ t.record = .minimumReplicas)
    {P : Value} (hP : ∀ es, P = .mapping es → ∀ k m, (k, Value.number m) ∈ es → m.Normal)
    {C : List (Value × Value)} (hv : validateParams t.parameters P = .ok C)
    {r : TemplateParams} (hr : t.readParams P = .ok r) :
    ∃ w, r.toValue? = some w ∧
      w.same (.mapping (((RecordFields.named C).filter fun f => !t.record.skips f).map
        fun f => (.string f.1, f.2))) = true ∧
      (w.same (.mapping C) = true ↔
        ∀ k v, (k, v) ∈ C → ∃ n, k = .string n ∧ t.record.skips (n, v) = false) :=
  written_record_of_normal_fields t ht hv hr (normal_fields_of_validateParams hv hP)

/-- The same for the parameters of a check that a configuration defines, with no hypothesis on
numbers: reading the configuration writes them as the record writes them back. -/
theorem configured_record_matches_cleaned {text : String} {cfg : Config}
    (hcfg : Config.read text = .ok cfg) {spec : CheckSpec} (hspec : spec ∈ cfg.customChecks)
    (t : Template)
    (ht : t.record = .requiredMap ∨ t.record = .latestTag ∨ t.record = .minimumReplicas)
    {C : List (Value × Value)} (hv : validateParams t.parameters spec.params = .ok C)
    {r : TemplateParams} (hr : t.readParams spec.params = .ok r) :
    ∃ w, r.toValue? = some w ∧
      w.same (.mapping (((RecordFields.named C).filter fun f => !t.record.skips f).map
        fun f => (.string f.1, f.2))) = true ∧
      (w.same (.mapping C) = true ↔
        ∀ k v, (k, v) ∈ C → ∃ n, k = .string n ∧ t.record.skips (n, v) = false) :=
  written_record_of_normal_fields t ht hv hr (normal_fields_of_validateParams hv
    (Config.read_params_numbersNormal hcfg spec hspec).entry_normal)

/-- A required label given with a plain key and value is written back as what passed. -/
theorem required_label_written_back :
    validateParams Template.requiredLabel.parameters
        (.mapping [(.string "key", .string "app"), (.string "value", .string "web")]) =
      .ok [(.string "key", .string "app"), (.string "value", .string "web")] ∧
    ∃ w, (TemplateParams.requiredMap "app" "web").toValue? = some w ∧
      w.same (.mapping [(.string "key", .string "app"), (.string "value", .string "web")]) =
        true := by
  have hv : validateParams Template.requiredLabel.parameters
      (.mapping [(.string "key", .string "app"), (.string "value", .string "web")]) =
      .ok [(.string "key", .string "app"), (.string "value", .string "web")] :=
    validateParams_mapParameters_strings "label" "app" "web"
  have hr : Template.requiredLabel.readParams
      (.mapping [(.string "key", .string "app"), (.string "value", .string "web")]) =
      .ok (.requiredMap "app" "web") := by
    rw [Template.readParams_of_ok hv]
    rfl
  obtain ⟨w, hw, -, hiff⟩ := written_record_matches_cleaned .requiredLabel (.inl rfl)
    (fun es hes k m hm => by cases hes; simp at hm) hv hr
  refine ⟨hv, w, hw, hiff.2 fun k v hkv => ?_⟩
  simp only [List.mem_cons, Prod.mk.injEq, List.not_mem_nil, or_false] at hkv
  rcases hkv with ⟨rfl, rfl⟩ | ⟨rfl, rfl⟩ <;> exact ⟨_, rfl, rfl⟩

/-- A required label given an empty value passes with it, and its record is written back without
it, so the two are not the same mapping. -/
theorem empty_value_not_written_back :
    validateParams Template.requiredLabel.parameters
        (.mapping [(.string "key", .string "a"), (.string "value", .string "")]) =
      .ok [(.string "key", .string "a"), (.string "value", .string "")] ∧
    Template.requiredLabel.readParams
        (.mapping [(.string "key", .string "a"), (.string "value", .string "")]) =
      .ok (.requiredMap "a" "") ∧
    (TemplateParams.requiredMap "a" "").toValue? = some (.mapping [(.string "key", .string "a")]) ∧
    (Value.mapping [(.string "key", .string "a")]).same
      (.mapping [(.string "key", .string "a"), (.string "value", .string "")]) = false := by
  have hv : validateParams Template.requiredLabel.parameters
      (.mapping [(.string "key", .string "a"), (.string "value", .string "")]) =
      .ok [(.string "key", .string "a"), (.string "value", .string "")] :=
    validateParams_mapParameters_strings "label" "a" ""
  exact ⟨hv, by rw [Template.readParams_of_ok hv]; rfl, rfl, by simp [Value.same]⟩

end Records

end ManifestLint
