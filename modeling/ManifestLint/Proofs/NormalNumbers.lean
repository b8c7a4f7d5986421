import Mathlib
import ManifestLint.Checks.Spec

/-! # Numbers as reading writes them

Reading a document writes an integer as `Number.ofInt` does: as a negative integer only below
zero (`scalarValue_normal`). So it holds at every depth of what is read: of a value read from a
document (`readValue_numbersNormal`), and of the parameters of every check that a specification or
a configuration defines (`Config.read_params_numbersNormal`).

The decoders are programs in `DecodeM`, and `Yields x Q` says that whatever `x` succeeds with
satisfies `Q`. Each decoder is shown to yield its invariant one step of its recursion at a time,
the loops over the entries of a collection by an invariant of the entries read so far.
-/

namespace ManifestLint

namespace Yaml

section Numbers

/-- A number as reading a document writes it: an integer is kept as negative only below zero. -/
def Number.Normal : Number → Prop
  | .neg i => i < 0
  | _ => True

theorem Number.normal_ofInt (i : Int) : (Number.ofInt i).Normal := by
  unfold Number.ofInt
  split
  · simpa [Number.Normal]
  · trivial

theorem Number.ofInt_of_asInt? {n : Number} (hn : n.Normal) {i : Int} (h : n.asInt? = some i) :
    Number.ofInt i = n := by
  cases n with
  | nat k =>
    simp only [Number.asInt?] at h
    split at h
    · cases h
      simp [Number.ofInt]
    · cases h
  | neg j =>
    have hj : j < 0 := hn
    cases h
    simp [Number.ofInt, hj]
  | float _ => cases h

theorem readInteger?_normal {s : String} {n : Number} (h : readInteger? s = some (.ok n)) :
    n.Normal := by
  unfold readInteger? at h
  dsimp only at h
  split at h
  · cases h
    trivial
  · split at h
    · cases h
      exact Number.normal_ofInt _
    · split at h
      · cases h
      · split at h <;> cases h

theorem resolvePlain_normal {s : String} {n : Number} (h : resolvePlain s = .ok (.number n)) :
    n.Normal := by
  unfold resolvePlain at h
  split at h
  · cases h
  split at h
  · cases h
  split at h
  · cases h
    exact readInteger?_normal ‹_›
  · cases h
  split at h
  · cases h
    trivial
  · cases h

/-- Every number a scalar is read as is normal. -/
theorem scalarValue_normal {tag : Option String} {text : String} {style : ScalarStyle}
    {tagged : Bool} {expected : String} {n : Number}
    (h : scalarValue tag text style tagged expected = .ok (.number n)) : n.Normal := by
  unfold scalarValue at h
  dsimp only at h
  repeat' split at h
  all_goals cases h <;> first
    | trivial
    | exact readInteger?_normal ‹_›
    | exact resolvePlain_normal ‹_›

end Numbers

section Values

/-- Every number in a value is normal, at any depth. -/
inductive Value.NumbersNormal : Value → Prop
  | null : Value.NumbersNormal .null
  | bool (b : Bool) : Value.NumbersNormal (.bool b)
  | number {n : Number} : n.Normal → Value.NumbersNormal (.number n)
  | string (s : String) : Value.NumbersNormal (.string s)
  | sequence {items : List Value} : (∀ x ∈ items, Value.NumbersNormal x) →
      Value.NumbersNormal (.sequence items)
  | mapping {es : List (Value × Value)} : (∀ e ∈ es, Value.NumbersNormal e.1) →
      (∀ e ∈ es, Value.NumbersNormal e.2) → Value.NumbersNormal (.mapping es)
  | tagged (t : String) {v : Value} : Value.NumbersNormal v → Value.NumbersNormal (.tagged t v)

/-- Every value held in a decoded record has its numbers normal, at any depth. -/
inductive Decoded.NumbersNormal : Decoded → Prop
  | bool (b : Bool) : Decoded.NumbersNormal (.bool b)
  | text (s : String) : Decoded.NumbersNormal (.text s)
  | value {v : Value} : v.NumbersNormal → Decoded.NumbersNormal (.value v)
  | optional {o : Option Decoded} : (∀ x ∈ o, Decoded.NumbersNormal x) →
      Decoded.NumbersNormal (.optional o)
  | repeated {items : List Decoded} : (∀ x ∈ items, Decoded.NumbersNormal x) →
      Decoded.NumbersNormal (.repeated items)
  | record {fields : List (String × Decoded)} : (∀ f ∈ fields, Decoded.NumbersNormal f.2) →
      Decoded.NumbersNormal (.record fields)

/-- A value that is neither a collection nor tagged. -/
def Value.IsScalar (v : Value) : Prop :=
  v = .null ∨ (∃ b, v = .bool b) ∨ (∃ n, v = .number n) ∨ ∃ s, v = .string s

theorem resolvePlain_isScalar {s : String} {v : Value} (h : resolvePlain s = .ok v) :
    v.IsScalar := by
  unfold resolvePlain at h
  repeat' split at h
  all_goals cases h
  all_goals simp [Value.IsScalar]

theorem scalarValue_isScalar {tag : Option String} {text : String} {style : ScalarStyle}
    {tagged : Bool} {expected : String} {v : Value}
    (h : scalarValue tag text style tagged expected = .ok v) : v.IsScalar := by
  unfold scalarValue at h
  dsimp only at h
  repeat' split at h
  all_goals cases h
  all_goals first | exact resolvePlain_isScalar ‹_› | simp [Value.IsScalar]

theorem scalarValue_numbersNormal {tag : Option String} {text : String} {style : ScalarStyle}
    {tagged : Bool} {expected : String} {v : Value}
    (h : scalarValue tag text style tagged expected = .ok v) : v.NumbersNormal := by
  rcases scalarValue_isScalar h with rfl | ⟨b, rfl⟩ | ⟨n, rfl⟩ | ⟨s, rfl⟩
  · exact .null
  · exact .bool b
  · exact .number (scalarValue_normal h)
  · exact .string s

theorem Value.NumbersNormal.entry_normal {v : Value} (hv : v.NumbersNormal) :
    ∀ es, v = .mapping es → ∀ k m, (k, Value.number m) ∈ es → m.Normal := by
  rintro es rfl k m he
  cases hv with
  | mapping _ hval =>
    cases hval _ he with
    | number hm => exact hm

namespace Decoded.NumbersNormal

variable {d : Decoded} (hd : d.NumbersNormal)
include hd

theorem field? {name : String} {x : Decoded} (h : d.field? name = some x) : x.NumbersNormal := by
  cases hd with
  | record hf =>
    obtain ⟨l₁, l₂, rfl, -⟩ := List.lookup_eq_some_iff.1 h
    exact hf (name, x) (by simp)
  | _ => cases h

theorem toItems : ∀ x ∈ d.toItems, x.NumbersNormal := by
  cases hd with
  | repeated hx => exact hx
  | _ => simp [Decoded.toItems]

theorem toValue : d.toValue.NumbersNormal := by
  cases hd with
  | value hv => exact hv
  | _ => exact .null

end Decoded.NumbersNormal

end Values

section Yields

/-- Whatever a decoding step succeeds with satisfies `Q`, from any cursor. -/
def Yields {α : Type} (x : DecodeM α) (Q : α → Prop) : Prop :=
  ∀ c a c', x.run c = .ok (a, c') → Q a

variable {α β : Type} {Q : α → Prop}

theorem yields_pure {a : α} (h : Q a) : Yields (pure a) Q := by
  intro c b c' hr
  cases hr
  exact h

theorem yields_bind {P : β → Prop} {x : DecodeM β} {f : β → DecodeM α} (hx : Yields x P)
    (hf : ∀ b, P b → Yields (f b) Q) : Yields (x >>= f) Q := by
  intro c a c' hr
  rw [StateT.run_bind] at hr
  cases hxc : x.run c with
  | error e => simp [hxc, bind, Except.bind] at hr
  | ok p =>
    simp only [hxc, bind, Except.bind] at hr
    exact hf p.1 (hx c p.1 p.2 hxc) _ _ _ hr

theorem yields_bind_any {x : DecodeM β} {f : β → DecodeM α} (hf : ∀ b, Yields (f b) Q) :
    Yields (x >>= f) Q :=
  yields_bind (P := fun _ => True) (fun _ _ _ _ => trivial) fun b _ => hf b

theorem yields_throw {e : LoadError} : Yields (throw e : DecodeM α) Q := by
  intro c a c' hr
  cases hr

theorem yields_throw_bind {e : LoadError} {f : β → DecodeM α} : Yields (throw e >>= f) Q :=
  yields_bind yields_throw (P := fun _ => False) fun _ h => h.elim

theorem yields_tryCatch {x : DecodeM α} {h : LoadError → DecodeM α} (hx : Yields x Q)
    (hh : ∀ e, Yields (h e) Q) : Yields (tryCatch x h) Q := by
  intro c a c' hr
  simp only [tryCatch, tryCatchThe, MonadExceptOf.tryCatch, StateT.run, Except.tryCatch] at hr
  split at hr
  · rename_i hxc
    exact hx c a c' (by rw [StateT.run, hxc, hr])
  · exact hh _ c a c' hr

theorem yields_earlyReturn {ρ : Type} {r : ρ} {Q : Except ρ α → Prop} (h : Q (.error r)) :
    Yields (@EarlyReturnT.return ρ DecodeM α _ r) Q := by
  intro c a c' hr
  cases hr
  exact h

/-- A step written with `try` and early returns succeeds with what its block returns, early or at
its end. -/
theorem yields_tryReturn {body : DecodeM (Except α α)} {h : LoadError → DecodeM (Except α α)}
    (hbody : Yields body fun r => Q (EarlyReturn.runK r id id))
    (hh : ∀ e, Yields (h e) fun r => Q (EarlyReturn.runK r id id)) :
    Yields (tryCatch body h >>= fun r => EarlyReturn.runK r (fun a => pure a) fun a => pure a)
      Q := by
  refine yields_bind (yields_tryCatch hbody hh) fun r hr => ?_
  cases r with
  | ok a => exact yields_pure hr
  | error a => exact yields_pure hr

theorem yields_forIn_list {γ : Type} {I : β → Prop} {f : γ → β → DecodeM (ForInStep β)}
    (hf : ∀ a b, I b → Yields (f a b) fun r => I r.value) (xs : List γ) {b : β} (hb : I b) :
    Yields (forIn xs b f) I := by
  induction xs generalizing b with
  | nil =>
    rw [List.forIn_nil]
    exact yields_pure hb
  | cons a xs ih =>
    rw [List.forIn_cons]
    refine yields_bind (hf a b hb) fun r hr => ?_
    cases r with
    | done c => exact yields_pure hr
    | yield c => exact ih hr

theorem yields_forIn_range {I : β → Prop} {f : Nat → β → DecodeM (ForInStep β)}
    (hf : ∀ a b, I b → Yields (f a b) fun r => I r.value) (r : Std.Legacy.Range) {b : β}
    (hb : I b) : Yields (forIn r b f) I := by
  rw [Std.Legacy.Range.forIn_eq_forIn_range']
  exact yields_forIn_list hf _ hb

theorem Document.run_eq_ok {d : Document} {m : DecodeM α} {a : α} (h : d.run m = .ok a) :
    ∃ c, m.run {} = .ok (a, c) := by
  unfold Document.run at h
  split at h
  · cases h
  · rename_i b c hm
    split at h
    · cases h
    · cases h
      exact ⟨c, hm⟩

/-- What reading a document succeeds with is what its decoder yields. -/
theorem readWith_of_yields {m : Document → DecodeM α} (hm : ∀ d, Yields (m d) Q) {text : String}
    {a : α} (h : readWith text m = .ok a) : Q a := by
  unfold readWith at h
  split at h
  rename_i d more _
  split at h
  · cases h
  · rename_i b hrun
    split at h
    · cases h
    · cases h
      obtain ⟨c, hc⟩ := Document.run_eq_ok hrun
      exact hm d _ _ _ hc

end Yields

section Decoders

variable (d : Document)

theorem forall_mem_toList_push {γ : Type} {N : γ → Prop} {xs : Array γ} {x : γ}
    (hxs : ∀ y ∈ xs.toList, N y) (hx : N x) :
    ∀ y ∈ (ForInStep.yield (xs.push x)).value.toList, N y := by
  simp only [ForInStep.value, Array.toList_push, List.forall_mem_append, List.forall_mem_singleton]
  exact ⟨hxs, hx⟩

theorem decodeValue_numbersNormal (fuel : Nat) :
    ∀ path depth tagged, Yields (decodeValue d fuel path depth tagged) Value.NumbersNormal := by
  induction fuel with
  | zero =>
    intro path depth tagged
    rw [decodeValue.eq_1]
    exact yields_throw
  | succ fuel ih =>
    intro path depth tagged
    rw [decodeValue.eq_2]
    refine yields_bind_any fun ⟨step, mark⟩ => yields_tryReturn ?_ fun _ => yields_throw_bind
    cases step with
    | «alias» target =>
      exact yields_bind_any fun _ => yields_bind (ih _ _ _) fun v hv =>
        yields_bind_any fun _ => yields_earlyReturn hv
    | void => exact yields_earlyReturn .null
    | sequenceEnd => exact yields_throw_bind
    | mappingEnd => exact yields_throw_bind
    | scalar tag text style =>
      dsimp only
      split
      · exact yields_bind_any fun _ => yields_bind (ih _ _ _) fun v hv =>
          yields_earlyReturn (.tagged _ hv)
      · split
        · exact yields_earlyReturn (scalarValue_numbersNormal ‹_›)
        · exact yields_throw_bind
    | sequenceStart tag =>
      dsimp only
      split
      · exact yields_bind_any fun _ => yields_bind (ih _ _ _) fun v hv =>
          yields_earlyReturn (.tagged _ hv)
      split
      · exact yields_throw_bind
      refine yields_bind (yields_forIn_range (I := fun items : Array Value =>
        ∀ x ∈ items.toList, x.NumbersNormal) (fun _ items hI => ?_) _ (by simp)) fun items hI =>
          yields_bind_any fun _ => yields_earlyReturn (.sequence hI)
      refine yields_bind_any fun ⟨s, _⟩ => ?_
      split
      · exact yields_pure hI
      · exact yields_bind (ih _ _ _) fun v hv =>
          yields_pure (forall_mem_toList_push hI hv)
    | mappingStart tag =>
      dsimp only
      split
      · exact yields_bind_any fun _ => yields_bind (ih _ _ _) fun v hv =>
          yields_earlyReturn (.tagged _ hv)
      split
      · exact yields_throw_bind
      refine yields_bind (yields_forIn_range (I := fun entries : Array (Value × Value) =>
        ∀ e ∈ entries.toList, e.1.NumbersNormal ∧ e.2.NumbersNormal) (fun _ entries hI => ?_) _
          (by simp)) fun entries hI => yields_bind_any fun _ =>
            yields_earlyReturn (.mapping (fun e he => (hI e he).1) (fun e he => (hI e he).2))
      refine yields_bind_any fun ⟨s, _⟩ => ?_
      split
      · exact yields_pure hI
      refine yields_bind (ih _ _ _) fun k hk => ?_
      split
      · exact yields_throw_bind
      · exact yields_bind (ih _ _ _) fun v hv =>
          yields_pure (forall_mem_toList_push hI ⟨hk, hv⟩)

variable (fuel : Nat)

theorem decodeFields_numbersNormal_succ
    (ih : ∀ path depth shape, Yields (decodeShape d fuel path depth shape) Decoded.NumbersNormal)
    (path : Path) (depth : Nat) (fields : List (String × Bool × Shape)) :
    Yields (decodeFields d (fuel + 1) path depth fields) Decoded.NumbersNormal := by
  rw [decodeFields.eq_2]
  refine yields_bind (yields_forIn_range (I := fun found : Array (String × Decoded) =>
    ∀ f ∈ found.toList, f.2.NumbersNormal) (fun _ found hI => ?_) _ (by simp)) fun found hI => ?_
  · dsimp only
    refine yields_bind_any fun ⟨step, _⟩ => ?_
    split
    · exact yields_pure hI
    refine yields_bind_any fun name => ?_
    split
    · exact yields_throw_bind
    split
    · exact yields_bind (ih _ _ _) fun x hx => yields_pure (forall_mem_toList_push hI hx)
    · exact yields_pure hI
  · dsimp only
    split
    · exact yields_throw
    · exact yields_pure (.record hI)

theorem decodeShape_numbersNormal_succ
    (ihShape : ∀ path depth shape, Yields (decodeShape d fuel path depth shape) Decoded.NumbersNormal)
    (ihFields : ∀ path depth fields,
      Yields (decodeFields d fuel path depth fields) Decoded.NumbersNormal)
    (path : Path) (depth : Nat) (shape : Shape) :
    Yields (decodeShape d (fuel + 1) path depth shape) Decoded.NumbersNormal := by
  by_cases hvalue : shape = .value
  · subst hvalue
    rw [decodeShape.eq_2]
    exact yields_bind (decodeValue_numbersNormal d fuel _ _ _) fun v hv => yields_pure (.value hv)
  by_cases hoptional : ∃ s, shape = .optional s
  · obtain ⟨s, rfl⟩ := hoptional
    rw [decodeShape.eq_3]
    refine yields_bind_any fun ⟨step, _⟩ => ?_
    dsimp only
    split
    · exact yields_bind_any fun _ => yields_bind_any fun _ => yields_bind (ihShape _ _ _) fun r hr =>
        yields_bind_any fun _ => yields_pure hr
    · split
      · exact yields_bind_any fun _ => yields_pure (.optional (by simp))
      · exact yields_bind (ihShape _ _ _) fun x hx => yields_pure (.optional (by simpa using hx))
      · exact yields_throw
  rw [decodeShape.eq_4 _ _ _ _ _ hvalue fun s h => hoptional ⟨s, h⟩]
  refine yields_bind_any fun ⟨step, mark⟩ => yields_tryReturn ?_ fun _ => yields_throw_bind
  dsimp only
  split
  · exact yields_bind_any fun _ => yields_bind (ihShape _ _ _) fun r hr =>
      yields_bind_any fun _ => yields_earlyReturn hr
  · exact yields_earlyReturn (.text _)
  · split
    · exact yields_earlyReturn (.bool _)
    · exact yields_throw_bind
  · split
    · exact yields_throw_bind
    refine yields_bind (yields_forIn_range (I := fun items : Array Decoded =>
      ∀ x ∈ items.toList, x.NumbersNormal) (fun _ items hI => ?_) _ (by simp)) fun items hI =>
        yields_bind_any fun _ => yields_earlyReturn (.repeated hI)
    refine yields_bind_any fun _ => ?_
    split
    · exact yields_pure hI
    · exact yields_bind (ihShape _ _ _) fun x hx =>
        yields_pure (forall_mem_toList_push hI hx)
  · split
    · exact yields_throw_bind
    · exact yields_bind (ihFields _ _ _) fun r hr => yields_bind_any fun _ => yields_earlyReturn hr
  · split
    · exact yields_earlyReturn (.repeated (by simp))
    · exact yields_throw_bind
  · split
    · split
      · exact yields_throw_bind
      · exact yields_earlyReturn (.record (by simp))
    · exact yields_throw_bind
  · exact yields_throw_bind

theorem decodeShape_numbersNormal :
    (∀ path depth shape, Yields (decodeShape d fuel path depth shape) Decoded.NumbersNormal) ∧
      ∀ path depth fields, Yields (decodeFields d fuel path depth fields) Decoded.NumbersNormal := by
  induction fuel with
  | zero =>
    refine ⟨fun _ _ _ => ?_, fun _ _ _ => ?_⟩
    · rw [decodeShape.eq_1]
      exact yields_throw
    · rw [decodeFields.eq_1]
      exact yields_throw
  | succ fuel ih =>
    exact ⟨decodeShape_numbersNormal_succ d fuel ih.1 ih.2,
      decodeFields_numbersNormal_succ d fuel ih.1⟩

end Decoders

/-- Every number in a value read from a document is normal. -/
theorem readValue_numbersNormal {text : String} {v : Value} (h : readValue text = .ok v) :
    v.NumbersNormal :=
  readWith_of_yields (fun d => decodeValue_numbersNormal d _ _ _ _) h

theorem readShape_numbersNormal {text : String} {shape : Shape} {r : Decoded}
    (h : readShape text shape = .ok r) : r.NumbersNormal :=
  readWith_of_yields (fun d => (decodeShape_numbersNormal d _).1 _ _ _) h

end Yaml

open Yaml

theorem CheckSpec.params_numbersNormal_ofDecoded {d : Decoded} (hd : d.NumbersNormal) :
    (CheckSpec.ofDecoded d).params.NumbersNormal := by
  simp only [CheckSpec.ofDecoded]
  cases hp : d.field? "params" with
  | none => exact .null
  | some p => exact (hd.field? hp).toValue

/-- The parameters of a check read from a specification have their numbers normal. -/
theorem CheckSpec.read_params_numbersNormal {text : String} {spec : CheckSpec}
    (h : CheckSpec.read text = .ok spec) : spec.params.NumbersNormal := by
  unfold CheckSpec.read at h
  cases hr : readShape text specShape with
  | error e => simp [hr, Except.map] at h
  | ok r =>
    simp only [hr, Except.map, Except.ok.injEq] at h
    exact h ▸ CheckSpec.params_numbersNormal_ofDecoded (readShape_numbersNormal hr)

/-- The parameters of every check a configuration defines have their numbers normal. -/
theorem Config.read_params_numbersNormal {text : String} {cfg : Config}
    (h : Config.read text = .ok cfg) : ∀ spec ∈ cfg.customChecks, spec.params.NumbersNormal := by
  unfold Config.read at h
  split at h
  · cases h
    simp
  cases hr : readShape text configShape with
  | error e => simp [hr] at h
  | ok r =>
    simp only [hr, Except.ok.injEq] at h
    subst h
    intro spec hspec
    simp only [Config.ofDecoded] at hspec
    cases hc : r.field? "customChecks" with
    | none => simp [hc] at hspec
    | some l =>
      simp only [hc, Option.map_some, Option.getD_some, List.mem_map] at hspec
      obtain ⟨x, hx, rfl⟩ := hspec
      exact CheckSpec.params_numbersNormal_ofDecoded
        ((readShape_numbersNormal hr).field? hc |>.toItems x hx)

end ManifestLint
