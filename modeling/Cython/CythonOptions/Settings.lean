import Cython.CythonOptions.ParseRuns

/-!
# What parsing leaves in the settings dict

`parse_directive_list` stores only directives of `_directive_defaults`, each with a value of the
kind that its entry of `directive_types` produces: a `bool` for `bool`, one of the choices for a
`one_of`, a list of `str` for the directives that collect their values. A dict of that kind,
given as `current_settings`, stays one whether the call returns or raises. The one exception the
dict could cause, the `AttributeError` of `result[name].append` on a value that is not a list,
then never happens. `KeepsSettings` says this of a program of the loop, and each function of the
loop has it, from `parse_directive_value` up to `parseDirectiveList_keepsSettings`. Such a dict
also passes the check of unknown directives in `CompilationOptions.__post_init__`.

The defaults themselves are not such a dict: `auto_pickle` is `None` where its type is `bool`, and
`nogil` is `False` where its type is `DEFER_ANALYSIS_OF_ARGUMENTS`.

Setting `relaxed_bool` or `ignore_unknown` only makes the parser accept more: a list that parses
with the flags off parses to the same dict with them on (`parseDirectiveList_lenient`).
`copy_inherited_directives` reads as its comment says: a key of the new directives has the new
value, a directive that is not inherited is dropped, and every other key keeps the outer value.
-/

namespace CythonOptions

/-! ## The values a directive takes -/

/-- Whether the loop of `parse_directive_list` can store `value` for a directive whose entry of
`directive_types` is `type`. -/
def valueFits : Option DirectiveType → PyValue → Bool
  | none, .none => true
  | some .noneType, .none => true
  | some .bool, .bool _ => true
  | some .int, .int _ => true
  | some .str, .str _ => true
  | some .list, .list _ => true
  | some (.oneOf args _), .str value => decide (value ∈ args)
  | some .normaliseEncodingName, .str _ => true
  | _, _ => false

/-- What `parse_directive_value` returns fits the directive's type. -/
theorem parseDirectiveValue_fits {codecs : Codecs} {name value : String} {relaxedBool : Bool}
    {v : PyValue} (h : parseDirectiveValue codecs name value relaxedBool = .ok v) :
    valueFits (directiveType name) v = true := by
  unfold parseDirectiveValue at h
  split at h <;> rename_i htype <;> rw [htype]
  case h_5 =>
    unfold oneOf at h
    simp only at h
    split at h <;> cases h
    exact decide_eq_true ‹_›
  case h_6 =>
    cases hn : normaliseEncodingName codecs name value <;> rw [hn] at h <;> cases h
    rfl
  all_goals
    repeat' split at h
    all_goals cases h <;> rfl

/-- `normalise_encoding_name` raises only `LookupError`. -/
theorem normaliseEncodingName_error {codecs : Codecs} {optionName encoding : String}
    {e : OptionError} (h : normaliseEncodingName codecs optionName encoding = .error e) :
    ∃ missing, e = .lookupError missing := by
  unfold normaliseEncodingName at h
  repeat' split at h
  all_goals cases h
  all_goals exact ⟨_, rfl⟩

/-- `parse_directive_value` raises no `AttributeError`. -/
theorem parseDirectiveValue_ne_attributeError {codecs : Codecs} {name value : String}
    {relaxedBool : Bool} {e : OptionError}
    (h : parseDirectiveValue codecs name value relaxedBool = .error e) (attr : String) :
    e ≠ .attributeError attr := by
  unfold parseDirectiveValue at h
  split at h
  case h_5 =>
    unfold oneOf at h
    simp only at h
    split at h <;> cases h
    simp
  case h_6 =>
    cases hn : normaliseEncodingName codecs name value <;> rw [hn] at h <;> cases h
    obtain ⟨_, rfl⟩ := normaliseEncodingName_error hn
    simp
  all_goals
    repeat' split at h
    all_goals cases h <;> simp

/-! ## The invariant of the settings dict -/

/-- A dict that parsing builds: each key is a directive of `_directive_defaults`, and each value
fits the directive's type. -/
def SettingsOK (d : PyDict) : Prop :=
  ∀ e ∈ d.entries, e.1 ∈ directiveDefaults.keys ∧ valueFits (directiveType e.1) e.2 = true

instance (d : PyDict) : Decidable (SettingsOK d) := inferInstanceAs (Decidable (∀ _ ∈ _, _))

theorem settingsOK_empty : SettingsOK PyDict.empty := by simp [SettingsOK]

/-- Setting a directive to a value of its type keeps the invariant. -/
theorem SettingsOK.setItem {d : PyDict} (hd : SettingsOK d) {k : String} {v : PyValue}
    (hk : k ∈ directiveDefaults.keys) (hv : valueFits (directiveType k) v = true) :
    SettingsOK (d.setItem k v) := fun e he => by
  rcases PyDict.mem_setItem he with rfl | he
  · exact ⟨hk, hv⟩
  · exact hd e he

/-- A value found in a dict of the invariant fits the directive's type. -/
theorem SettingsOK.get? {d : PyDict} (hd : SettingsOK d) {k : String} {v : PyValue}
    (h : d.get? k = some v) : valueFits (directiveType k) v = true :=
  (hd _ (PyDict.mem_of_get? h)).2

/-- The end of a run of the loop: the dict left behind keeps the invariant, and an exception that
ended the run is no `AttributeError`. -/
inductive ResultOK {α : Type} : EStateM.Result OptionError PyDict α → Prop where
  | ok (a : α) {d : PyDict} : SettingsOK d → ResultOK (.ok a d)
  | error {e : OptionError} {d : PyDict} :
      SettingsOK d → (∀ attr, e ≠ .attributeError attr) → ResultOK (.error e d)

/-- A program of the loop that, run on a dict of the invariant, ends as `ResultOK` says. -/
def KeepsSettings {α : Type} (x : EStateM OptionError PyDict α) : Prop :=
  ∀ s, SettingsOK s → ResultOK (x s)

section KeepsSettings

variable {α β : Type}

theorem KeepsSettings.bind {x : EStateM OptionError PyDict α}
    {f : α → EStateM OptionError PyDict β} (hx : KeepsSettings x)
    (hf : ∀ a, KeepsSettings (f a)) : KeepsSettings (x >>= f) := fun s hs => by
  have h := hx s hs
  rw [estate_bind_apply]
  generalize x s = r at h ⊢
  cases h with
  | ok a hs' => exact hf a _ hs'
  | error hs' he => exact .error hs' he

theorem keepsSettings_pure (a : α) : KeepsSettings (pure a : EStateM OptionError PyDict α) :=
  fun _ hs => .ok a hs

theorem keepsSettings_get : KeepsSettings (get : EStateM OptionError PyDict PyDict) :=
  fun s hs => .ok s hs

theorem keepsSettings_throw {e : OptionError} (he : ∀ attr, e ≠ .attributeError attr) :
    KeepsSettings (throw e : EStateM OptionError PyDict α) :=
  fun _ hs => .error hs he

theorem keepsSettings_ite {c : Prop} [Decidable c] {x y : EStateM OptionError PyDict α}
    (hx : KeepsSettings x) (hy : KeepsSettings y) : KeepsSettings (if c then x else y) := by
  split
  · exact hx
  · exact hy

end KeepsSettings

/-- Setting a directive to its value as `parse_directive_value` reads it, and going on. -/
theorem keepsSettings_parseAndSet (codecs : Codecs) (relaxedBool : Bool) {name : String}
    (value : String) (hk : name ∈ directiveDefaults.keys) {β : Type}
    {f : PUnit → EStateM OptionError PyDict β} (hf : ∀ u, KeepsSettings (f u)) :
    KeepsSettings (liftExcept (parseDirectiveValue codecs name value relaxedBool) >>=
      fun parsedValue => (modify fun result => result.setItem name parsedValue) >>= f) :=
  fun s hs => by
    simp only [estate_bind_apply, estate_liftExcept_apply, estate_modify_apply]
    cases hp : parseDirectiveValue codecs name value relaxedBool with
    | error e => exact .error hs (parseDirectiveValue_ne_attributeError hp)
    | ok v => exact hf _ _ (hs.setItem hk (parseDirectiveValue_fits hp))

theorem setAllDirectives_keepsSettings (codecs : Codecs) (relaxedBool : Bool)
    (pfx value : String) : ∀ directives : List String,
      (∀ d ∈ directives, d ∈ directiveDefaults.keys) →
        KeepsSettings (setAllDirectives codecs relaxedBool pfx value directives)
  | [], _ => keepsSettings_pure _
  | d :: directives, hmem => by
    have hrest : ∀ found, KeepsSettings
        (setAllDirectives codecs relaxedBool pfx value directives >>= fun foundLater =>
          pure (found || foundLater)) := fun _ =>
      .bind (setAllDirectives_keepsSettings codecs relaxedBool pfx value directives
        fun d' hd' => hmem d' (.tail _ hd')) fun _ => keepsSettings_pure _
    unfold setAllDirectives
    simp only
    split
    · exact keepsSettings_parseAndSet codecs relaxedBool value (hmem d (.head _)) fun _ =>
        .bind (keepsSettings_pure _) hrest
    · exact .bind (keepsSettings_pure _) hrest

/-- In the unknown-name branch, the loop sets directives through `setAllDirectives` only, and
raises `ValueError` only. In the list branch, a dict of the invariant holds a list at the name, or
nothing, so `append` finds a list. -/
theorem assignDirective_keepsSettings (codecs : Codecs) (relaxedBool ignoreUnknown : Bool)
    (name value : String) :
    KeepsSettings (assignDirective codecs relaxedBool ignoreUnknown name value) := by
  have hfound : ∀ found : Bool, KeepsSettings (if (!found && !ignoreUnknown) = true then
      throw (.valueError ("Unknown option: " ++ pyDQuote name)) else pure PUnit.unit) :=
    fun _ => keepsSettings_ite (keepsSettings_throw fun _ => by simp) (keepsSettings_pure _)
  unfold assignDirective
  split
  · simp only
    split
    · exact .bind (setAllDirectives_keepsSettings codecs relaxedBool _ value _ fun _ hd => hd)
        hfound
    · exact .bind (keepsSettings_pure _) hfound
  · next hk =>
    have hk := not_not.mp hk
    split
    · next hlist =>
      intro s hs
      simp only [estate_bind_apply, estate_get_apply]
      cases hget : s.get? name with
      | none => exact .ok _ (hs.setItem hk (by rw [hlist]; rfl))
      | some v =>
        have hfits := hs.get? hget
        rw [hlist] at hfits
        cases v <;> cases hfits
        exact .ok _ (hs.setItem hk (by rw [hlist]; rfl))
    · simpa using keepsSettings_parseAndSet codecs relaxedBool value hk fun _ =>
        keepsSettings_pure ()

theorem parseDirectiveItems_keepsSettings (codecs : Codecs) (relaxedBool ignoreUnknown : Bool) :
    ∀ items : List String,
      KeepsSettings (parseDirectiveItems codecs relaxedBool ignoreUnknown items)
  | [] => keepsSettings_pure _
  | item :: items => by
    refine .bind ?_ fun _ => parseDirectiveItems_keepsSettings codecs relaxedBool ignoreUnknown items
    exact keepsSettings_ite (keepsSettings_pure _) <|
      keepsSettings_ite (keepsSettings_throw fun _ => by simp)
        (assignDirective_keepsSettings codecs relaxedBool ignoreUnknown _ _)

/-- `parse_directive_list` on `current_settings` of the invariant, or on none: the dict it returns,
or leaves behind when it raises, keeps the invariant, and it never raises `AttributeError`. -/
theorem parseDirectiveList_keepsSettings (codecs : Codecs) (s : String)
    (relaxedBool ignoreUnknown : Bool) (currentSettings : Option PyDict)
    (hc : ∀ d ∈ currentSettings, SettingsOK d) :
    ResultOK (parseDirectiveList codecs s relaxedBool ignoreUnknown currentSettings) := by
  refine (parseDirectiveItems_keepsSettings codecs relaxedBool ignoreUnknown _).bind
    (fun _ => keepsSettings_get) _ ?_
  cases currentSettings with
  | none => exact settingsOK_empty
  | some d => exact hc d rfl

/-- Parsing into a dict that already collects a path and holds `warn` as `None` keeps the
invariant. -/
theorem parseDirectiveList_keepsSettings_paths :
    (∀ d ∈ some ((PyDict.empty.setItem "test_assert_path_exists" (.list ["//A"])).setItem "warn"
        .none), SettingsOK d) ∧
      ResultOK (parseDirectiveList ⟨fun _ => none⟩
        "test_assert_path_exists=//B, boundscheck=False, warn.all=True" false false
        (some ((PyDict.empty.setItem "test_assert_path_exists" (.list ["//A"])).setItem "warn"
          .none))) :=
  have hc : ∀ d ∈ some ((PyDict.empty.setItem "test_assert_path_exists" (.list ["//A"])).setItem
      "warn" .none), SettingsOK d := by
    rintro d ⟨⟩
    decide
  ⟨hc, parseDirectiveList_keepsSettings ⟨fun _ => none⟩
    "test_assert_path_exists=//B, boundscheck=False, warn.all=True" false false _ hc⟩

/-! ## The check of `CompilationOptions` -/

/-- `parse_directive_list` returns the dict it filled. -/
theorem parseDirectiveList_ok_eq {codecs : Codecs} {s : String} {relaxedBool ignoreUnknown : Bool}
    {currentSettings : Option PyDict} {d d' : PyDict}
    (h : parseDirectiveList codecs s relaxedBool ignoreUnknown currentSettings = .ok d d') :
    d = d' := by
  unfold parseDirectiveList at h
  rw [estate_bind_apply] at h
  split at h <;> cases h
  rfl

/-- `set(compiler_directives) - set(directive_defaults)` of `CompilationOptions.__post_init__`, as
a list; a non-empty one raises `ValueError`. -/
def unknownDirectives (compilerDirectives : PyDict) : List String :=
  compilerDirectives.keys.filter fun k => k ∉ directiveDefaults.keys

/-- A dict that `parse_directive_list` returns, into a new dict, passes the check of unknown
directives of `CompilationOptions`, also with `ignore_unknown`. -/
theorem parseDirectiveList_unknownDirectives (codecs : Codecs) (s : String)
    (relaxedBool ignoreUnknown : Bool) {d d' : PyDict}
    (h : parseDirectiveList codecs s relaxedBool ignoreUnknown none = .ok d d') :
    unknownDirectives d = [] := by
  have hok := (parseDirectiveItems_keepsSettings codecs relaxedBool ignoreUnknown
    (pySplit s ',')).bind (fun _ => keepsSettings_get) _ settingsOK_empty
  have hrun : (parseDirectiveItems codecs relaxedBool ignoreUnknown (pySplit s ',') >>= fun _ =>
      get) PyDict.empty = .ok d d' := h
  rw [hrun, ← parseDirectiveList_ok_eq h] at hok
  cases hok with | ok _ hok => ?_
  simp only [unknownDirectives, List.filter_eq_nil_iff, decide_eq_true_eq, not_not]
  intro k hk
  obtain ⟨e, he, rfl⟩ := List.mem_map.mp hk
  exact (hok e he).1

/-- An unknown option that `ignore_unknown` skips leaves no key behind. -/
theorem parseDirectiveList_unknownDirectives_ignored :
    parseDirectiveList ⟨fun _ => none⟩ "boundscheck=False, nope=1" false true none =
        .ok ⟨[("boundscheck", .bool false)], by decide⟩
          ⟨[("boundscheck", .bool false)], by decide⟩ ∧
      unknownDirectives ⟨[("boundscheck", .bool false)], by decide⟩ = [] :=
  have h : parseDirectiveList ⟨fun _ => none⟩ "boundscheck=False, nope=1" false true none =
      .ok ⟨[("boundscheck", .bool false)], by decide⟩
        ⟨[("boundscheck", .bool false)], by decide⟩ := by rfl
  ⟨h, parseDirectiveList_unknownDirectives ⟨fun _ => none⟩ _ false true h⟩

/-! ## Lenient flags -/

/-- `y` returns wherever `x` returns, with the same value and dict. -/
def AcceptsMore {α : Type} (x y : EStateM OptionError PyDict α) : Prop :=
  ∀ s a s', x s = .ok a s' → y s = .ok a s'

section AcceptsMore

variable {α β : Type}

theorem AcceptsMore.refl (x : EStateM OptionError PyDict α) : AcceptsMore x x :=
  fun _ _ _ h => h

theorem AcceptsMore.bind {x y : EStateM OptionError PyDict α}
    {f g : α → EStateM OptionError PyDict β} (hxy : AcceptsMore x y)
    (hfg : ∀ a, AcceptsMore (f a) (g a)) : AcceptsMore (x >>= f) (y >>= g) :=
  fun s b s' h => by
    rw [estate_bind_apply] at h ⊢
    cases hx : x s with
    | ok a s₁ =>
      rw [hx] at h
      rw [hxy s a s₁ hx]
      exact hfg a s₁ b s' h
    | error e s₁ =>
      rw [hx] at h
      cases h

theorem acceptsMore_liftExcept {x y : Except OptionError α} (h : ∀ a, x = .ok a → y = .ok a) :
    AcceptsMore (liftExcept x) (liftExcept y) := fun s a s' hx => by
  simp only [estate_liftExcept_apply] at hx ⊢
  cases hx' : x with
  | error e => rw [hx'] at hx; cases hx
  | ok b => rw [hx'] at hx; rw [h b hx']; exact hx

end AcceptsMore

/-- `relaxed_bool` only adds values that the strict reading rejects. -/
theorem parseDirectiveValue_relaxed {codecs : Codecs} {name value : String} {v : PyValue}
    (h : parseDirectiveValue codecs name value false = .ok v) (relaxedBool : Bool) :
    parseDirectiveValue codecs name value relaxedBool = .ok v := by
  cases relaxedBool
  · exact h
  unfold parseDirectiveValue at h ⊢
  cases ht : directiveType name with
  | none => rw [ht] at h; exact h
  | some t =>
    rw [ht] at h
    cases t
    case bool =>
      by_cases h₁ : value = "True"
      · simpa [h₁] using h
      by_cases h₂ : value = "False"
      · simpa [h₁, h₂] using h
      simp [h₁, h₂] at h
    all_goals exact h

theorem setAllDirectives_acceptsMore (codecs : Codecs) (relaxedBool : Bool) (pfx value : String) :
    ∀ directives : List String,
      AcceptsMore (setAllDirectives codecs false pfx value directives)
        (setAllDirectives codecs relaxedBool pfx value directives)
  | [] => .refl _
  | d :: directives => by
    have ih := setAllDirectives_acceptsMore codecs relaxedBool pfx value directives
    unfold setAllDirectives
    simp only
    split
    · exact .bind (acceptsMore_liftExcept fun _ h => parseDirectiveValue_relaxed h relaxedBool)
        fun _ => .bind (.refl _) fun _ => .bind (.refl _) fun _ => .bind ih fun _ => .refl _
    · exact .bind (.refl _) fun _ => .bind ih fun _ => .refl _

/-- With the flags set, a name is assigned wherever it is without them: an unknown name is
accepted without them only when `<prefix>.all` found a directive. -/
theorem assignDirective_acceptsMore (codecs : Codecs) (relaxedBool ignoreUnknown : Bool)
    (name value : String) :
    AcceptsMore (assignDirective codecs false false name value)
      (assignDirective codecs relaxedBool ignoreUnknown name value) := by
  unfold assignDirective
  split
  · simp only
    split
    · intro s a s' h
      rw [estate_bind_apply] at h ⊢
      cases hs : setAllDirectives codecs false (pyDropLast name 3) value directiveDefaults.keys s
        with
      | error e s₁ => rw [hs] at h; cases h
      | ok found s₁ =>
        rw [hs] at h
        rw [setAllDirectives_acceptsMore codecs relaxedBool _ value _ s found s₁ hs]
        cases found
        · simp at h
        · simpa using h
    · intro s a s' h
      simp at h
  · split
    · exact .refl _
    · exact .bind (acceptsMore_liftExcept fun _ h => parseDirectiveValue_relaxed h relaxedBool)
        fun _ => .refl _

theorem parseDirectiveItems_acceptsMore (codecs : Codecs) (relaxedBool ignoreUnknown : Bool) :
    ∀ items : List String,
      AcceptsMore (parseDirectiveItems codecs false false items)
        (parseDirectiveItems codecs relaxedBool ignoreUnknown items)
  | [] => .refl _
  | item :: items => by
    refine .bind ?_ fun _ => parseDirectiveItems_acceptsMore codecs relaxedBool ignoreUnknown items
    unfold parseDirectiveItem
    simp only
    split
    · exact .refl _
    · split
      · exact .refl _
      · exact assignDirective_acceptsMore codecs relaxedBool ignoreUnknown _ _

/-- A list that `parse_directive_list` accepts with `relaxed_bool` and `ignore_unknown` off, it
accepts with any flags, and fills the dict the same way. -/
theorem parseDirectiveList_lenient (codecs : Codecs) (s : String)
    (currentSettings : Option PyDict) {d d' : PyDict}
    (h : parseDirectiveList codecs s false false currentSettings = .ok d d')
    (relaxedBool ignoreUnknown : Bool) :
    parseDirectiveList codecs s relaxedBool ignoreUnknown currentSettings = .ok d d' :=
  (parseDirectiveItems_acceptsMore codecs relaxedBool ignoreUnknown _).bind (fun _ => .refl _)
    _ _ _ h

/-- `boundscheck=False` parses the same with both flags set. -/
theorem parseDirectiveList_lenient_boundscheck :
    parseDirectiveList ⟨fun _ => none⟩ "boundscheck=False" false false none =
        .ok ⟨[("boundscheck", .bool false)], by decide⟩
          ⟨[("boundscheck", .bool false)], by decide⟩ ∧
      parseDirectiveList ⟨fun _ => none⟩ "boundscheck=False" true true none =
        .ok ⟨[("boundscheck", .bool false)], by decide⟩
          ⟨[("boundscheck", .bool false)], by decide⟩ :=
  have h : parseDirectiveList ⟨fun _ => none⟩ "boundscheck=False" false false none =
      .ok ⟨[("boundscheck", .bool false)], by decide⟩
        ⟨[("boundscheck", .bool false)], by decide⟩ := by rfl
  ⟨h, parseDirectiveList_lenient ⟨fun _ => none⟩ "boundscheck=False" none h true true⟩

/-! ## Inherited directives -/

/-- Popping the names of a list one after the other. -/
theorem get?_foldl_pop (k : String) : ∀ (names : List String) (d : PyDict),
    (names.foldl PyDict.pop d).get? k = if k ∈ names then none else d.get? k
  | [], _ => by simp
  | n :: names, d => by
    rw [List.foldl_cons, get?_foldl_pop k names, PyDict.get?_pop]
    by_cases h : k = n <;> simp [h]

/-- `copy_inherited_directives(outer_directives, **new_directives)`: a key of the new directives
has its new value; every other key keeps its outer value, except the directives that are not
inherited, which are gone. -/
theorem copyInheritedDirectives_get? (outerDirectives newDirectives : PyDict) (k : String) :
    (copyInheritedDirectives outerDirectives newDirectives).get? k =
      (newDirectives.get? k).or
        (if k ∈ nonInheritedDirectives then none else outerDirectives.get? k) := by
  rw [copyInheritedDirectives, PyDict.get?_update, get?_foldl_pop]

end CythonOptions
