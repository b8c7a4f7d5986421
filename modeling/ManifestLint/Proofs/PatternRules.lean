import Mathlib
import ManifestLint.Proofs.IgnoreAnnotations

/-! # Rules compiled from patterns

The required-label and required-annotation templates compile a key pattern and then a value
pattern, under the default matching options, and fail at the first that does not compile. Their
rule looks at one map of the object, its labels or its annotations, and passes it exactly when a
single entry has a key that the key pattern accepts and a value that the value pattern accepts;
otherwise it gives one report naming both patterns (`requiredMap_reports_unless_entry_matches`).
Nothing else of the object, and nothing of the context, is looked at.

The latest-tag template compiles its block list and then its allow list as regular expressions,
failing at the first pattern that does not compile, and refuses to be given both lists. Its rule
walks the containers of the object's pod template, init containers last, and gives at most one
report per container: the block list's when some pattern of it matches the image, else the allow
list's when no pattern of it does (`latestTag_reports_listed_images`).
-/

namespace ManifestLint

/-! ## Required labels and annotations -/

section RequiredMap

variable (annotations : Bool)

/-- The template of required annotations, or of required labels. -/
def Template.requiredMapOf : Template :=
  if annotations then Template.requiredAnnotation else Template.requiredLabel

/-- What the required-map templates call the map they look at. -/
def requiredMapField : String :=
  if annotations then "annotation" else "label"

/-- The map a required-map rule looks at. -/
def Object.requiredMap (o : Object) : Dict :=
  if annotations then o.annotations else o.labels

/-- The report on an object whose map has no entry matching the patterns. -/
def requiredMapMessage (key value : String) : String :=
  "no " ++ requiredMapField annotations ++ " matching \"" ++ key ++ "=" ++
    (if value.isEmpty then "<any>" else value) ++ "\" found"

theorem compileParam_mapParameters (field p : String) {name : String}
    (hname : name = "key" ∨ name = "value") :
    compileParam (Template.mapParameters field) name p =
      match StringMatcher.compile p with
      | .ok m => .ok m
      | .error e => .error (.invalidPattern name e) := by
  rcases hname with rfl | rfl <;> rfl

theorem Template.instantiate_requiredMapOf (key value : String) :
    (requiredMapOf annotations).instantiate (.requiredMap key value) = (do
      let keyMatcher ← compileParam (mapParameters (requiredMapField annotations)) "key" key
      let valueMatcher ← compileParam (mapParameters (requiredMapField annotations)) "value" value
      return .requiredMap annotations keyMatcher valueMatcher
        (requiredMapMessage annotations key value)) := by
  cases annotations <;> rfl

theorem Rule.check_requiredMap (key value : StringMatcher) (message : String) (ctx : Context)
    (o : Object) :
    (requiredMap annotations key value message).check ctx o =
      if ∃ e ∈ (o.requiredMap annotations).toList, key.accepts e.1 = true ∧ value.accepts e.2 = true
      then [] else [message] := by
  have hfound : ((o.requiredMap annotations).toList.any fun e => key.accepts e.1 && value.accepts e.2)
      = true ↔ ∃ e ∈ (o.requiredMap annotations).toList, key.accepts e.1 = true ∧
        value.accepts e.2 = true := by
    simp [List.any_eq_true]
  cases annotations <;> exact if_congr hfound rfl rfl

/-- The required-label and required-annotation templates fail on a key pattern that does not
compile, and then on a value pattern that does not; with both compiled, the rule passes an object
exactly when a single entry of its labels (or annotations) has its key accepted by the key pattern
and its value by the value pattern, and otherwise reports once, naming the patterns and `<any>`
for an empty value. -/
theorem requiredMap_reports_unless_entry_matches (key value : String) :
    (∀ e, StringMatcher.compile key = .error e →
      (Template.requiredMapOf annotations).instantiate (.requiredMap key value) =
        .error (.invalidPattern "key" e)) ∧
    (∀ keyMatcher e, StringMatcher.compile key = .ok keyMatcher →
      StringMatcher.compile value = .error e →
      (Template.requiredMapOf annotations).instantiate (.requiredMap key value) =
        .error (.invalidPattern "value" e)) ∧
    ∀ keyMatcher valueMatcher, StringMatcher.compile key = .ok keyMatcher →
      StringMatcher.compile value = .ok valueMatcher →
      ∃ r, (Template.requiredMapOf annotations).instantiate (.requiredMap key value) = .ok r ∧
        ∀ ctx o, r.check ctx o =
          if ∃ e ∈ (o.requiredMap annotations).toList,
            keyMatcher.accepts e.1 = true ∧ valueMatcher.accepts e.2 = true
          then [] else [requiredMapMessage annotations key value] := by
  have hkey := compileParam_mapParameters (requiredMapField annotations) key (Or.inl rfl)
  have hvalue := compileParam_mapParameters (requiredMapField annotations) value (Or.inr rfl)
  refine ⟨fun e he => ?_, fun keyMatcher e hk hv => ?_, fun keyMatcher valueMatcher hk hv => ?_⟩
  · simp [Template.instantiate_requiredMapOf, hkey, he, bind, Except.bind]
  · simp [Template.instantiate_requiredMapOf, hkey, hvalue, hk, hv, bind,
      Except.bind]
  · refine ⟨_, ?_, Rule.check_requiredMap annotations keyMatcher valueMatcher _⟩
    simp [Template.instantiate_requiredMapOf, hkey, hvalue, hk, hv, bind,
      Except.bind, pure, Except.pure]

end RequiredMap

theorem app_label_found :
    let web : Object := ⟨"<stdin>", 1, "rbac.authorization.k8s.io/v1",
      .other .role { name := "web", labels := ⟨[("app", "web")], by simp⟩ }⟩
    ∃ r, (Template.requiredMapOf false).instantiate (.requiredMap "app" "") = .ok r ∧
      r.check {} web = [] := by
  intro web
  have haccepts : ((StringMatcher.compile "app").toOption.map (·.accepts "app")) = some true := by
    decide +kernel
  obtain ⟨keyMatcher, hopt, hkey⟩ := Option.map_eq_some_iff.1 haccepts
  obtain ⟨r, hr, hcheck⟩ := (requiredMap_reports_unless_entry_matches false "app" "").2.2
    keyMatcher _ (Except.eq_ok_of_toOption_eq_some hopt) rfl
  refine ⟨r, hr, ?_⟩
  rw [hcheck, if_pos]
  exact ⟨("app", "web"), List.mem_singleton_self _, hkey, StringMatcher.any_accepts "web"⟩

/-! ## Image lists -/

theorem compileList_cons (name p : String) (ps : List String) :
    compileList name (p :: ps) =
      match Pattern.Regex.compile p with
      | .ok r => (compileList name ps).map (r :: ·)
      | .error e => .error (.invalidPattern name (.regex p e)) := by
  simp only [compileList, List.mapM_cons]
  cases Pattern.Regex.compile p <;> simp [bind, Except.bind, Except.map, pure, Except.pure]

theorem compileList_first_error {name p : String} {pre : List String} (rest : List String)
    {e : Pattern.CompileError} (hpre : ∀ q ∈ pre, ∃ r, Pattern.Regex.compile q = .ok r)
    (hp : Pattern.Regex.compile p = .error e) :
    compileList name (pre ++ p :: rest) = .error (.invalidPattern name (.regex p e)) := by
  induction pre with
  | nil => simp [compileList_cons, hp]
  | cons q pre ih =>
    obtain ⟨r, hr⟩ := hpre q List.mem_cons_self
    rw [List.cons_append, compileList_cons, hr,
      ih fun q' hq' => hpre q' (List.mem_cons_of_mem _ hq')]
    rfl

/-- A list of patterns compiles exactly when each of them does, to their regular expressions in
order. -/
theorem compileList_eq_ok_iff {name : String} {ps : List String} {rs : List Pattern.Regex} :
    compileList name ps = .ok rs ↔ List.Forall₂ (fun p r => Pattern.Regex.compile p = .ok r) ps rs := by
  induction ps generalizing rs with
  | nil => cases rs <;> simp [compileList, pure, Except.pure]
  | cons p ps ih =>
    rw [compileList_cons]
    cases hp : Pattern.Regex.compile p with
    | error e => cases rs <;> simp [hp]
    | ok r =>
      cases hps : compileList name ps with
      | error e => cases rs <;> simp [Except.map, ← ih, hps, hp]
      | ok rs' => cases rs <;> simp [Except.map, ← ih, hps, hp]

/-- The report of the image-list rule on one container: the block list's when some pattern of it
matches the image, else the allow list's when the allow list is not empty and no pattern of it
matches, else none. An absent image is the empty text. -/
def imageReports (blocked allowed : List Pattern.Regex) (c : Container) : List String :=
  let image := c.image.getD ""
  if blocked ≠ [] ∧ ∃ r ∈ blocked, r.isMatch image = true then
    [imageMessage c image "are not blocked by the \x60BlockList\x60 criteria" blocked]
  else if allowed ≠ [] ∧ ∀ r ∈ allowed, r.isMatch image = false then
    [imageMessage c image "satisfies the \x60AllowList\x60 criteria" allowed]
  else []

/-- The containers of an object's pod template, init containers last; none without a template. -/
def Object.containers (o : Object) : List Container :=
  (o.template?.map fun t => t.spec.containers ++ t.spec.initContainers).getD []

theorem Rule.check_latestTag (blocked allowed : List Pattern.Regex) (ctx : Context) (o : Object) :
    (latestTag blocked allowed).check ctx o = o.containers.flatMap (imageReports blocked allowed) := by
  simp only [check, perContainer, Object.podSpec?, Object.containers]
  cases o.template? with
  | none => rfl
  | some t =>
    simp only [Option.map_some, Option.getD_some, PodSpec.allContainers]
    congr 1
    funext c
    have hblock : ∀ image, (!blocked.isEmpty && blocked.any (·.isMatch image)) = true ↔
        blocked ≠ [] ∧ ∃ r ∈ blocked, r.isMatch image = true := by
      simp [List.any_eq_true]
    have hallow : ∀ image, (!allowed.isEmpty && !allowed.any (·.isMatch image)) = true ↔
        allowed ≠ [] ∧ ∀ r ∈ allowed, r.isMatch image = false := by
      simp
    exact if_congr (hblock _) rfl (if_congr (hallow _) rfl rfl)

theorem Template.instantiate_latestTag (blockList allowList : List String) :
    latestTag.instantiate (.latestTag blockList allowList) = (do
      let blocked ← compileList "blockList" blockList
      let allowed ← compileList "allowList" allowList
      if !blocked.isEmpty && !allowed.isEmpty then
        throw (TemplateError.invalid
          ("only one of the paramater lists can be used at a time: check has " ++
            "both \"allowList\" & \"blockList\" parameter's values set"))
      return .latestTag blocked allowed) :=
  rfl

/-- The latest-tag template fails at the first pattern of its block list that does not compile,
then at the first of its allow list, and then when both lists are given. Otherwise its rule reports,
for each container of the object's pod template and then each init container, once for the block
list when one of its patterns matches the image, else once for the allow list when it is given
and none of its patterns matches, and else not at all. -/
theorem latestTag_reports_listed_images (blockList allowList : List String) :
    (∀ pre p rest e, blockList = pre ++ p :: rest →
      (∀ q ∈ pre, ∃ r, Pattern.Regex.compile q = .ok r) → Pattern.Regex.compile p = .error e →
      Template.latestTag.instantiate (.latestTag blockList allowList) =
        .error (.invalidPattern "blockList" (.regex p e))) ∧
    (∀ blocked, List.Forall₂ (fun p r => Pattern.Regex.compile p = .ok r) blockList blocked →
      ∀ pre p rest e, allowList = pre ++ p :: rest →
      (∀ q ∈ pre, ∃ r, Pattern.Regex.compile q = .ok r) → Pattern.Regex.compile p = .error e →
      Template.latestTag.instantiate (.latestTag blockList allowList) =
        .error (.invalidPattern "allowList" (.regex p e))) ∧
    ∀ blocked allowed, List.Forall₂ (fun p r => Pattern.Regex.compile p = .ok r) blockList blocked →
      List.Forall₂ (fun p r => Pattern.Regex.compile p = .ok r) allowList allowed →
      (blockList ≠ [] → allowList ≠ [] →
        Template.latestTag.instantiate (.latestTag blockList allowList) = .error (.invalid
        ("only one of the paramater lists can be used at a time: check has " ++
          "both \"allowList\" & \"blockList\" parameter's values set"))) ∧
      (blockList = [] ∨ allowList = [] →
        Template.latestTag.instantiate (.latestTag blockList allowList) =
          .ok (.latestTag blocked allowed) ∧
        ∀ ctx o, (Rule.latestTag blocked allowed).check ctx o =
          o.containers.flatMap (imageReports blocked allowed)) := by
  refine ⟨?_, ?_, fun blocked allowed hb ha => ⟨fun hbne hane => ?_, fun hempty => ⟨?_, ?_⟩⟩⟩
  · rintro pre p rest e rfl hpre hp
    simp [Template.instantiate_latestTag, compileList_first_error rest hpre hp,
      bind, Except.bind]
  · rintro blocked hb pre p rest e rfl hpre hp
    simp [Template.instantiate_latestTag, compileList_eq_ok_iff.2 hb,
      compileList_first_error rest hpre hp, bind, Except.bind]
  · have hbl : blocked ≠ [] := fun h => hbne (List.forall₂_nil_right_iff.1 (h ▸ hb))
    have hal : allowed ≠ [] := fun h => hane (List.forall₂_nil_right_iff.1 (h ▸ ha))
    simp [Template.instantiate_latestTag, compileList_eq_ok_iff.2 hb,
      compileList_eq_ok_iff.2 ha, bind, Except.bind, hbl, hal, throw,
      throwThe, MonadExceptOf.throw]
  · have hone : blocked = [] ∨ allowed = [] := by
      rcases hempty with rfl | rfl
      · exact Or.inl (List.forall₂_nil_left_iff.1 hb)
      · exact Or.inr (List.forall₂_nil_left_iff.1 ha)
    have hflag : (!blocked.isEmpty && !allowed.isEmpty) = false := by
      rcases hone with rfl | rfl <;> simp
    simp [Template.instantiate_latestTag, compileList_eq_ok_iff.2 hb,
      compileList_eq_ok_iff.2 ha, bind, Except.bind, hflag, pure, Except.pure]
  · exact fun ctx o => Rule.check_latestTag blocked allowed ctx o

theorem latest_tag_block_list_compiles :
    ∃ blocked, List.Forall₂ (fun p r => Pattern.Regex.compile p = .ok r) [":latest$"] blocked ∧
      Template.latestTag.instantiate (.latestTag [":latest$"] []) = .ok (.latestTag blocked []) ∧
      ∀ ctx o, (Rule.latestTag blocked []).check ctx o =
        o.containers.flatMap (imageReports blocked []) := by
  have hok : (Pattern.Regex.compile ":latest$").toOption.isSome = true := by decide +kernel
  obtain ⟨r, hopt⟩ := Option.isSome_iff_exists.1 hok
  have hb : List.Forall₂ (fun p r => Pattern.Regex.compile p = .ok r) [":latest$"] [r] :=
    List.Forall₂.cons (Except.eq_ok_of_toOption_eq_some hopt) List.Forall₂.nil
  exact ⟨[r], hb, (latestTag_reports_listed_images [":latest$"] []).2.2 [r] [] hb
    List.Forall₂.nil |>.2 (Or.inr rfl)⟩

end ManifestLint
