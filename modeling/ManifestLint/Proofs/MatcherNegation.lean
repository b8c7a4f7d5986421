import ManifestLint.Pattern.Matcher

/-! # Negated patterns

A leading `!` negates the rest of a pattern. Where negation is allowed, and `r` does not itself
start with `!`, the pattern `!r` compiles exactly when `r` does, and it accepts exactly the strings
that `r` refuses (`negation_complements`). The rest is compiled as `r` is, and only the flag
differs. The empty rest is the one exception, where regular expressions are not allowed. The empty
pattern accepts every string, but `!` compares its empty rest literally, so it accepts every string
except the empty one. With regular expressions the two agree, since the empty expression matches
every text.
-/

namespace ManifestLint

namespace Pattern

theorem Regex.compile_empty : Regex.compile "" = .ok ⟨"", ⟨#[.accept], 0⟩⟩ := by
  with_unfolding_all rfl

theorem Automaton.close_accept (after : Option Char) :
    (⟨#[.accept], 0⟩ : Automaton).close none after #[false] 0 = #[true] := by
  simp [Automaton.close, List.range', List.forIn_cons]

theorem Automaton.isMatch_accept (text : String) :
    (⟨#[.accept], 0⟩ : Automaton).isMatch text = true := by
  rw [Automaton.isMatch]
  rcases text.toList with _ | ⟨c, cs⟩
  · simp [close_accept]
  · simp [List.range', List.forIn_cons, close_accept]

end Pattern

namespace StringMatcher

/-- What the rest of a pattern compiles to, with the negation given: a regular expression, or the
text itself where regular expressions are not allowed. -/
def compileRest (rest : String) (options : MatchOptions) (negate : Bool) :
    Except MatcherError StringMatcher :=
  if options.allowRegex then
    match Pattern.Regex.compile rest with
    | .ok r => .ok ⟨.regex r, negate⟩
    | .error e => .error (.regex rest e)
  else .ok ⟨.literal rest, negate⟩

theorem compile_empty (options : MatchOptions) : compile "" options = .ok any := rfl

theorem compile_cons (c : Char) (cs : List Char) (options : MatchOptions) :
    compile (String.ofList (c :: cs)) options =
      if c = '!' then
        if options.allowNegation then compileRest (String.ofList cs) options true
        else .error (.negationNotAllowed (String.ofList (c :: cs)))
      else compileRest (String.ofList (c :: cs)) options false := by
  have hne : (String.ofList (c :: cs)).isEmpty = false := by simp
  unfold compile
  simp only [hne, Bool.false_eq_true, if_false, String.toList_ofList]
  split
  · rename_i cs' h
    obtain ⟨rfl, rfl⟩ := List.cons.inj h
    cases options.allowNegation <;> rfl
  · rename_i h
    have hc : c ≠ '!' := fun hc => h cs (hc ▸ rfl)
    simp only [hc, if_false]
    rfl

theorem compileRest_negated (rest : String) (options : MatchOptions) :
    compileRest rest options true =
      (compileRest rest options false).map fun m => ⟨m.rule, true⟩ := by
  unfold compileRest
  split
  · cases Pattern.Regex.compile rest <;> rfl
  · rfl

theorem negate_of_compileRest {rest : String} {options : MatchOptions} {m : StringMatcher}
    (h : compileRest rest options false = .ok m) : m.negate = false := by
  unfold compileRest at h
  split at h
  · cases hr : Pattern.Regex.compile rest <;> simp only [hr, reduceCtorEq, Except.ok.injEq] at h
    exact h ▸ rfl
  · exact (Except.ok.inj h) ▸ rfl

theorem accepts_negate (rule : MatchRule) (s : String) :
    (⟨rule, true⟩ : StringMatcher).accepts s = !(⟨rule, false⟩ : StringMatcher).accepts s := by
  simp only [accepts]
  split <;> simp

theorem compile_negated {r : String} {c : Char} {cs : List Char} (hc : r.toList = c :: cs)
    (hc' : c ≠ '!') {options : MatchOptions} (hn : options.allowNegation = true) :
    compile ("!" ++ r) options = (compile r options).map (fun m => ⟨m.rule, true⟩) ∧
      ∀ m, compile r options = .ok m → m.negate = false := by
  have hr : r = String.ofList (c :: cs) := by rw [← hc, String.ofList_toList]
  have hbang : "!" ++ r = String.ofList ('!' :: c :: cs) := by
    rw [← hc, ← String.ofList_toList (s := "!" ++ r)]
    simp
  have hplain : compile r options = compileRest r options false := by
    rw [hr, compile_cons, if_neg hc']
  rw [hbang, compile_cons, if_pos rfl, if_pos hn, ← hr, hplain, compileRest_negated]
  exact ⟨rfl, fun m hm => negate_of_compileRest hm⟩

theorem compile_bang_regex {options : MatchOptions} (hn : options.allowNegation = true)
    (hx : options.allowRegex = true) :
    ∃ re, compile "!" options = .ok ⟨.regex re, true⟩ ∧ ∀ s, re.isMatch s = true := by
  refine ⟨⟨"", ⟨#[.accept], 0⟩⟩, ?_, fun s => Pattern.Automaton.isMatch_accept s⟩
  rw [show "!" = String.ofList ['!'] from rfl, compile_cons, if_pos rfl, if_pos hn]
  simp only [compileRest, hx, if_true]
  rw [show String.ofList [] = "" from rfl, Pattern.Regex.compile_empty]

theorem compile_bang_literal {options : MatchOptions} (hn : options.allowNegation = true)
    (hx : options.allowRegex = false) :
    compile "!" options = .ok ⟨.literal "", true⟩ := by
  rw [show "!" = String.ofList ['!'] from rfl, compile_cons, if_pos rfl, if_pos hn]
  simp only [compileRest, hx]
  rfl

/-- Where negation is allowed, `!r` for an `r` that does not start with `!` compiles exactly when
`r` does and accepts exactly what `r` refuses: with regular expressions for every such `r`, and
without them for every such `r` but the empty one. Without regular expressions `!` alone accepts
exactly the strings that are not empty. Where negation is not allowed, `!r` is refused, naming the
whole pattern. The empty pattern accepts every string. -/
theorem negation_complements (r : String) (hr : r.toList.head? ≠ some '!')
    (options : MatchOptions) :
    (options.allowNegation = true → (options.allowRegex = true ∨ r ≠ "") →
      ((∃ m, compile ("!" ++ r) options = .ok m) ↔ ∃ m, compile r options = .ok m) ∧
      ∀ m m', compile ("!" ++ r) options = .ok m → compile r options = .ok m' →
        ∀ s, m.accepts s = !m'.accepts s) ∧
    (options.allowNegation = true → options.allowRegex = false →
      ∃ m, compile "!" options = .ok m ∧ ∀ s, m.accepts s = decide (s ≠ "")) ∧
    (options.allowNegation = false →
      compile ("!" ++ r) options = .error (.negationNotAllowed ("!" ++ r))) ∧
    ∃ m, compile "" options = .ok m ∧ ∀ s, m.accepts s = true := by
  refine ⟨fun hn hmode => ?_, fun hn hx => ?_, fun hn => ?_, any, rfl, fun _ => rfl⟩
  · cases hc : r.toList with
    | nil =>
      have hr' : r = "" := String.toList_eq_nil_iff.1 hc
      subst hr'
      have hx : options.allowRegex = true := hmode.resolve_right (fun h => h rfl)
      obtain ⟨re, hre, hmatch⟩ := compile_bang_regex hn hx
      rw [String.append_empty, hre, compile_empty]
      refine ⟨⟨fun _ => ⟨any, rfl⟩, fun _ => ⟨_, rfl⟩⟩, ?_⟩
      rintro m m' ⟨⟩ ⟨⟩ s
      simp [accepts, hmatch, any]
    | cons c cs =>
      have hc' : c ≠ '!' := fun h => hr (by simp [hc, h])
      obtain ⟨hneg, hplain⟩ := compile_negated hc hc' hn
      rw [hneg]
      refine ⟨⟨fun ⟨m, hm⟩ => ?_, fun ⟨m, hm⟩ => ⟨_, by rw [hm]; rfl⟩⟩, ?_⟩
      · cases h : compile r options with
        | ok m' => exact ⟨m', rfl⟩
        | error e => rw [h] at hm; cases hm
      · intro m m' hm hm' s
        rw [hm'] at hm
        cases hm
        obtain ⟨rule, negate⟩ := m'
        cases (hplain _ hm' : negate = false)
        exact accepts_negate rule s
  · refine ⟨_, compile_bang_literal hn hx, fun s => ?_⟩
    by_cases hs : s = "" <;> simp [accepts, hs]
  · have hbang : "!" ++ r = String.ofList ('!' :: r.toList) := by
      rw [← String.ofList_toList (s := "!" ++ r)]
      simp
    rw [hbang, compile_cons, if_pos rfl, if_neg (by simp [hn])]

/-- `!team` accepts exactly the strings in which `team` matches nowhere. -/
theorem negated_team_complements :
    "team".toList.head? ≠ some '!' ∧
      ∀ m m', compile ("!" ++ "team") {} = .ok m → compile "team" {} = .ok m' →
        ∀ s, m.accepts s = !m'.accepts s :=
  ⟨by decide, ((negation_complements "team" (by decide) {}).1 rfl (.inl rfl)).2⟩

/-- Without regular expressions, `!` does not negate the empty pattern: both accept `a`. -/
theorem negated_empty_literal_accepts :
    ∃ m m', compile ("!" ++ "") ⟨false, true⟩ = .ok m ∧ compile "" ⟨false, true⟩ = .ok m' ∧
      m.accepts "a" ≠ !m'.accepts "a" :=
  ⟨_, _, compile_bang_literal rfl rfl, rfl, by decide⟩

end StringMatcher

end ManifestLint
