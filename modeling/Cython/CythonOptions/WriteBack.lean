import Cython.CythonOptions.Values
import Cython.CythonOptions.Settings

/-!
# Writing the parsed directives back

A dict that `parse_directive_list` returns can be written back as a directive list. Each directive
becomes one item `name=str(value)`; a directive that collects a list becomes one item
`name=element` per element; the items follow the order of the dict. `parseDirectiveList_writeDirectives`
shows that this text is read as the same dict, whatever the flags: what the parser stores is in a
form that it reads back unchanged.

The proof carries `Canonical`: every key is a directive, a list holds texts that an item keeps, and
any other value is written as a text that an item keeps and is read back as itself
(`parseDirectiveValue_pyStr`). The loop stores only values of that kind, because `split(',')` and
`strip()` leave texts without commas and without whitespace at their ends. Reading the written
dict then rebuilds it entry by entry (`forM_entryItems`).
-/

namespace CythonOptions

/-! ## Writing a dict -/

/-- The item `name=value`, with no whitespace. -/
def plainItem (name value : String) : DirectiveItem := ⟨"", name, "", "", value, ""⟩

/-- The items that write one entry back: one per element of a list, and `name=str(value)` for any
other value. -/
def entryItems : String × PyValue → List DirectiveItem
  | (name, .list l) => l.map (plainItem name)
  | (name, v) => [plainItem name (pyStr v)]

/-- A dict written back as a directive list. -/
def writeDirectives (d : PyDict) : String := renderDirectives (d.entries.flatMap entryItems)

/-- An item of a directive with a text that an item keeps reads back as written. -/
theorem plainItem_wellFormed {name value : String} (hname : name ∈ directiveDefaults.keys)
    (hvalue : ItemSafe value) : (plainItem name value).WellFormed :=
  have hsafe := directiveDefaults_keys_itemSafe name hname
  ⟨nofun, nofun, nofun, nofun, hsafe.1.2, hvalue.2, hsafe.2, hsafe.1.1, hvalue.1⟩

/-! ## The canonical form -/

/-- An entry that a directive list writes back and reads as itself. -/
structure CanonicalEntry (codecs : Codecs) (e : String × PyValue) : Prop where
  /-- The key is a directive. -/
  known : e.1 ∈ directiveDefaults.keys
  /-- A directive that collects a list holds a non-empty list of texts that an item keeps. -/
  list : directiveType e.1 = some .list → ∃ l, e.2 = .list l ∧ l ≠ [] ∧ ∀ x ∈ l, ItemSafe x
  /-- Any other value is written as a text that an item keeps, and read back as itself. -/
  scalar : directiveType e.1 ≠ some .list → ItemSafe (pyStr e.2) ∧
    ∀ relaxedBool, parseDirectiveValue codecs e.1 (pyStr e.2) relaxedBool = .ok e.2

/-- A dict of canonical entries. -/
def Canonical (codecs : Codecs) (d : PyDict) : Prop := ∀ e ∈ d.entries, CanonicalEntry codecs e

theorem Canonical.setItem {codecs : Codecs} {d : PyDict} (hd : Canonical codecs d) {k : String}
    {v : PyValue} (he : CanonicalEntry codecs (k, v)) : Canonical codecs (d.setItem k v) :=
  fun e he' => (PyDict.mem_setItem he').elim (fun h => h ▸ he) (hd e)

/-- A program of the loop that, when it returns, leaves a canonical dict canonical. -/
def KeepsCanonical (codecs : Codecs) {α : Type} (x : EStateM OptionError PyDict α) : Prop :=
  ∀ s a s', Canonical codecs s → x s = .ok a s' → Canonical codecs s'

section KeepsCanonical

variable {codecs : Codecs} {α β : Type}

theorem KeepsCanonical.bind {x : EStateM OptionError PyDict α}
    {f : α → EStateM OptionError PyDict β} (hx : KeepsCanonical codecs x)
    (hf : ∀ a, KeepsCanonical codecs (f a)) : KeepsCanonical codecs (x >>= f) :=
  fun s b s' hs h => by
    rw [estate_bind_apply] at h
    cases hxs : x s with
    | ok a s₁ => rw [hxs] at h; exact hf a s₁ b s' (hx s a s₁ hs hxs) h
    | error e s₁ => rw [hxs] at h; cases h

theorem keepsCanonical_pure (a : α) :
    KeepsCanonical codecs (pure a : EStateM OptionError PyDict α) :=
  fun _ _ _ hs h => by cases h; exact hs

theorem keepsCanonical_get : KeepsCanonical codecs (get : EStateM OptionError PyDict PyDict) :=
  fun _ _ _ hs h => by cases h; exact hs

theorem keepsCanonical_throw (e : OptionError) :
    KeepsCanonical codecs (throw e : EStateM OptionError PyDict α) :=
  fun _ _ _ _ h => by cases h

theorem keepsCanonical_ite {c : Prop} [Decidable c] {x y : EStateM OptionError PyDict α}
    (hx : KeepsCanonical codecs x) (hy : KeepsCanonical codecs y) :
    KeepsCanonical codecs (if c then x else y) := by
  split
  · exact hx
  · exact hy

end KeepsCanonical

/-- A directive that `parse_directive_value` reads does not collect a list. -/
theorem directiveType_ne_list_of_parse {codecs : Codecs} {name value : String}
    {relaxedBool : Bool} {v : PyValue}
    (h : parseDirectiveValue codecs name value relaxedBool = .ok v) :
    directiveType name ≠ some .list := fun hlist => by
  unfold parseDirectiveValue at h
  rw [hlist] at h
  cases h

/-- Setting a directive to a value read from a text that an item keeps, and going on. -/
theorem keepsCanonical_parseAndSet (codecs : Codecs) (relaxedBool : Bool) {name value : String}
    (hk : name ∈ directiveDefaults.keys) (hvalue : ItemSafe value) {β : Type}
    {f : PUnit → EStateM OptionError PyDict β} (hf : ∀ u, KeepsCanonical codecs (f u)) :
    KeepsCanonical codecs (liftExcept (parseDirectiveValue codecs name value relaxedBool) >>=
      fun parsedValue => (modify fun result => result.setItem name parsedValue) >>= f) :=
  fun s b s' hs h => by
    simp only [estate_bind_apply, estate_liftExcept_apply, estate_modify_apply] at h
    cases hp : parseDirectiveValue codecs name value relaxedBool with
    | error e => rw [hp] at h; cases h
    | ok v =>
      rw [hp] at h
      refine hf _ _ _ _ (hs.setItem ⟨hk, fun hlist => ?_, fun _ => ?_⟩) h
      · exact absurd hlist (directiveType_ne_list_of_parse hp)
      · exact ⟨parseDirectiveValue_itemSafe hvalue hp, parseDirectiveValue_pyStr hp⟩

theorem setAllDirectives_keepsCanonical (codecs : Codecs) (relaxedBool : Bool) {pfx value : String}
    (hvalue : ItemSafe value) : ∀ directives : List String,
      (∀ d ∈ directives, d ∈ directiveDefaults.keys) →
        KeepsCanonical codecs (setAllDirectives codecs relaxedBool pfx value directives)
  | [], _ => keepsCanonical_pure _
  | d :: directives, hmem => by
    have hrest : ∀ found, KeepsCanonical codecs
        (setAllDirectives codecs relaxedBool pfx value directives >>= fun foundLater =>
          pure (found || foundLater)) := fun _ =>
      .bind (setAllDirectives_keepsCanonical codecs relaxedBool hvalue directives
        fun d' hd' => hmem d' (.tail _ hd')) fun _ => keepsCanonical_pure _
    unfold setAllDirectives
    simp only
    split
    · exact keepsCanonical_parseAndSet codecs relaxedBool (hmem d (.head _)) hvalue fun _ =>
        .bind (keepsCanonical_pure _) hrest
    · exact .bind (keepsCanonical_pure _) hrest

/-- Assigning a text that an item keeps. The list branch appends it to a list of such texts. -/
theorem assignDirective_keepsCanonical (codecs : Codecs) (relaxedBool ignoreUnknown : Bool)
    (name : String) {value : String} (hvalue : ItemSafe value) :
    KeepsCanonical codecs (assignDirective codecs relaxedBool ignoreUnknown name value) := by
  have hfound : ∀ found : Bool, KeepsCanonical codecs
      (if (!found && !ignoreUnknown) = true then
        throw (.valueError ("Unknown option: " ++ pyDQuote name)) else pure PUnit.unit) :=
    fun _ => keepsCanonical_ite (keepsCanonical_throw _) (keepsCanonical_pure _)
  unfold assignDirective
  split
  · simp only
    split
    · exact .bind (setAllDirectives_keepsCanonical codecs relaxedBool hvalue _ fun _ hd => hd)
        hfound
    · exact .bind (keepsCanonical_pure _) hfound
  · next hk =>
    have hk := not_not.mp hk
    split
    · next hlist =>
      have hentry : ∀ l, l ≠ [] → (∀ x ∈ l, ItemSafe x) → CanonicalEntry codecs (name, .list l) :=
        fun l hl hsafe => ⟨hk, fun _ => ⟨l, rfl, hl, hsafe⟩, fun h => absurd hlist h⟩
      intro s a s' hs h
      simp only [estate_bind_apply, estate_get_apply] at h
      cases hget : s.get? name with
      | none =>
        rw [hget] at h
        cases h
        exact hs.setItem (hentry _ (by simp) fun x hx => by
          rw [List.mem_singleton.mp hx]; exact hvalue)
      | some v =>
        rw [hget] at h
        obtain ⟨l, rfl, -, hsafe⟩ := (hs _ (PyDict.mem_of_get? hget)).list hlist
        cases h
        refine hs.setItem (hentry _ (by simp) fun x hx => ?_)
        rcases List.mem_append.mp hx with hx | hx
        · exact hsafe x hx
        · rw [List.mem_singleton.mp hx]; exact hvalue
    · simpa using keepsCanonical_parseAndSet codecs relaxedBool hk hvalue fun _ =>
        keepsCanonical_pure ()

/-- The value of `s.split('=', 1)` holds only characters of `s`. -/
theorem mem_of_mem_pySplitOnce_snd {s : String} {sep c : Char}
    (h : c ∈ (pySplitOnce s sep).2.data) : c ∈ s.data :=
  (List.dropWhile_suffix _).subset (List.mem_of_mem_drop h)

/-- An item without a comma assigns a text that an item keeps. -/
theorem parseDirectiveItem_keepsCanonical (codecs : Codecs) (relaxedBool ignoreUnknown : Bool)
    {item : String} (hitem : ',' ∉ item.data) :
    KeepsCanonical codecs (parseDirectiveItem codecs relaxedBool ignoreUnknown item) := by
  unfold parseDirectiveItem
  simp only
  refine keepsCanonical_ite (keepsCanonical_pure _) <|
    keepsCanonical_ite (keepsCanonical_throw _) <|
      assignDirective_keepsCanonical codecs relaxedBool ignoreUnknown _ (itemSafe_pyStrip ?_)
  exact fun hc => hitem <| mem_of_mem_pyStrip <| mem_of_mem_pyStrip <|
    mem_of_mem_pySplitOnce_snd hc

theorem parseDirectiveItems_keepsCanonical (codecs : Codecs) (relaxedBool ignoreUnknown : Bool) :
    ∀ items : List String, (∀ item ∈ items, ',' ∉ item.data) →
      KeepsCanonical codecs (parseDirectiveItems codecs relaxedBool ignoreUnknown items)
  | [], _ => keepsCanonical_pure _
  | item :: items, h =>
    .bind (parseDirectiveItem_keepsCanonical codecs relaxedBool ignoreUnknown (h item (.head _)))
      fun _ => parseDirectiveItems_keepsCanonical codecs relaxedBool ignoreUnknown items
        fun i hi => h i (.tail _ hi)

/-- `parse_directive_value` returns no list. -/
theorem parseDirectiveValue_ne_list {codecs : Codecs} {name value : String} {relaxedBool : Bool}
    {v : PyValue} (h : parseDirectiveValue codecs name value relaxedBool = .ok v) (l : List String) :
    v ≠ .list l := fun hv => by
  have hfits := parseDirectiveValue_fits h
  rw [hv] at hfits
  rcases ht : directiveType name with _ | t
  · rw [ht] at hfits; cases hfits
  · rw [ht] at hfits
    cases t <;> first | exact directiveType_ne_list_of_parse h ht | cases hfits

/-- A canonical entry holds a list exactly when its directive collects one. -/
theorem CanonicalEntry.type_list {codecs : Codecs} {k : String} {l : List String}
    (he : CanonicalEntry codecs (k, .list l)) : directiveType k = some .list :=
  by_contra fun hlist => parseDirectiveValue_ne_list ((he.scalar hlist).2 false) l rfl

theorem CanonicalEntry.type_ne_list {codecs : Codecs} {k : String} {v : PyValue}
    (he : CanonicalEntry codecs (k, v)) (hv : ∀ l, v ≠ .list l) : directiveType k ≠ some .list :=
  fun hlist => by
    obtain ⟨l, hl, -⟩ := he.list hlist
    exact hv l hl

/-- The items of a canonical entry read back as written, and there is at least one. -/
theorem CanonicalEntry.items {codecs : Codecs} {e : String × PyValue}
    (he : CanonicalEntry codecs e) :
    (∀ i ∈ entryItems e, i.WellFormed) ∧ entryItems e ≠ [] := by
  obtain ⟨k, v⟩ := e
  cases v
  case list l =>
    obtain ⟨l', hl', hne, hsafe⟩ := he.list he.type_list
    cases hl'
    refine ⟨fun i hi => ?_, by simpa [entryItems] using hne⟩
    obtain ⟨x, hx, rfl⟩ := List.mem_map.mp hi
    exact plainItem_wellFormed he.known (hsafe x hx)
  all_goals
    refine ⟨fun i hi => ?_, List.cons_ne_nil _ _⟩
    rw [List.mem_singleton.mp hi]
    exact plainItem_wellFormed he.known (he.scalar (he.type_ne_list nofun)).1

/-- A dict that `parse_directive_list` returns from no current settings is canonical. -/
theorem parseDirectiveList_canonical (codecs : Codecs) (s : String)
    (relaxedBool ignoreUnknown : Bool) {d d' : PyDict}
    (h : parseDirectiveList codecs s relaxedBool ignoreUnknown none = .ok d d') :
    Canonical codecs d := by
  have hrun : (parseDirectiveItems codecs relaxedBool ignoreUnknown (pySplit s ',') >>= fun _ =>
      get) PyDict.empty = .ok d d' := h
  rw [parseDirectiveList_ok_eq h] at hrun ⊢
  exact (parseDirectiveItems_keepsCanonical codecs relaxedBool ignoreUnknown _
    fun _ hi => not_mem_of_mem_pySplit hi).bind (fun _ => keepsCanonical_get) _ _ _
    (fun _ he => by simp at he) hrun

/-! ## Reading the written dict -/

/-- Setting a key that the dict lacks puts it last. -/
theorem setItem_entries_of_not_mem {s : PyDict} {k : String} (v : PyValue)
    (hk : k ∉ s.entries.map Prod.fst) : (s.setItem k v).entries = s.entries ++ [(k, v)] := by
  simp [PyDict.setItem, PyDict.keys, hk]

/-- Setting the last key again replaces its value in place. -/
theorem setItem_entries_last {s : PyDict} {pre : List (String × PyValue)} {k : String}
    {v : PyValue} (hs : s.entries = pre ++ [(k, v)]) (hk : k ∉ pre.map Prod.fst) (v' : PyValue) :
    (s.setItem k v').entries = pre ++ [(k, v')] := by
  have hmem : k ∈ s.keys := by simp [PyDict.keys, hs]
  have hpre : ∀ e ∈ pre, e.1 ≠ k := fun e he h => hk (h ▸ List.mem_map_of_mem Prod.fst he)
  have hmap : pre.map (fun e => if e.1 = k then (k, v') else e) = pre := by
    conv_rhs => rw [← List.map_id pre]
    exact List.map_congr_left fun e he => if_neg (hpre e he)
  simp only [PyDict.setItem, hmem, dite_true, hs, List.map_append, List.map_cons, List.map_nil,
    if_true, hmap]

/-- Reading the items `name=x` of a list into a dict whose last entry is that directive's list
appends them to it. -/
theorem forM_listItems (codecs : Codecs) (relaxedBool ignoreUnknown : Bool) {k : String}
    (hk : k ∈ directiveDefaults.keys) (hlist : directiveType k = some .list)
    {pre : List (String × PyValue)} (hpre : k ∉ pre.map Prod.fst) :
    ∀ (xs acc : List String) (s : PyDict), s.entries = pre ++ [(k, .list acc)] →
      ∃ s', ((xs.map (plainItem k)).forM fun i =>
          assignDirective codecs relaxedBool ignoreUnknown i.name i.value) s = .ok () s' ∧
        s'.entries = pre ++ [(k, .list (acc ++ xs))]
  | [], acc, s, hs => ⟨s, rfl, by simpa using hs⟩
  | x :: xs, acc, s, hs => by
    have hget : s.get? k = some (.list acc) := by
      simp [PyDict.get?, hs, List.lookup_append, PyDict.lookup_eq_none_of_not_mem hpre]
    obtain ⟨s', hrun, hs'⟩ := forM_listItems codecs relaxedBool ignoreUnknown hk hlist hpre xs
      (acc ++ [x]) (s.setItem k (.list (acc ++ [x])))
      (setItem_entries_last hs hpre _)
    refine ⟨s', ?_, by simpa using hs'⟩
    simp only [List.map_cons, List.forM_cons', plainItem, assignDirective, hk, not_true_eq_false,
      if_false, hlist, if_true, estate_bind_apply, estate_get_apply, hget, estate_set_apply]
    exact hrun

/-- Reading the items of a canonical entry into a dict that lacks its key adds the entry last. -/
theorem forM_entryItems_one (codecs : Codecs) (relaxedBool ignoreUnknown : Bool) {k : String}
    {v : PyValue} (he : CanonicalEntry codecs (k, v)) {s : PyDict}
    (hk : k ∉ s.entries.map Prod.fst) :
    ∃ s₁, ((entryItems (k, v)).forM fun i =>
        assignDirective codecs relaxedBool ignoreUnknown i.name i.value) s = .ok () s₁ ∧
      s₁.entries = s.entries ++ [(k, v)] := by
  by_cases hlist : directiveType k = some .list
  · -- the first element creates the list, the others are appended to it
    obtain ⟨l, rfl, hl, -⟩ := he.list hlist
    obtain ⟨x, xs, rfl⟩ := List.exists_cons_of_ne_nil hl
    have hget : s.get? k = none := PyDict.lookup_eq_none_of_not_mem hk
    obtain ⟨s₁, hrun, hs₁⟩ := forM_listItems codecs relaxedBool ignoreUnknown he.known hlist
      hk xs [x] (s.setItem k (.list [x])) (setItem_entries_of_not_mem _ hk)
    refine ⟨s₁, ?_, by simpa using hs₁⟩
    simp only [entryItems, List.map_cons, List.forM_cons', plainItem, assignDirective,
      he.known, not_true_eq_false, if_false, hlist, if_true, estate_bind_apply,
      estate_get_apply, hget, estate_set_apply]
    exact hrun
  · -- any other value is one item, read back as itself
    obtain ⟨-, hread⟩ := he.scalar hlist
    have hitems : entryItems (k, v) = [plainItem k (pyStr v)] := by
      cases v with
      | list l => exact absurd (parseDirectiveValue_ne_list (hread false) l) (by simp)
      | _ => rfl
    refine ⟨s.setItem k v, ?_, setItem_entries_of_not_mem _ hk⟩
    simp only [hitems, List.forM_cons', List.forM_nil', plainItem,
      assignDirective_of_mem codecs relaxedBool ignoreUnknown _ he.known hlist,
      estate_bind_apply, estate_liftExcept_apply, hread, estate_modify_apply, estate_pure_apply]

/-- Reading the items of canonical entries into a dict that holds the entries before them adds
them in order. -/
theorem forM_entryItems (codecs : Codecs) (relaxedBool ignoreUnknown : Bool) :
    ∀ (post pre : List (String × PyValue)) (s : PyDict), s.entries = pre →
      ((pre ++ post).map Prod.fst).Nodup → (∀ e ∈ post, CanonicalEntry codecs e) →
        ∃ s', ((post.flatMap entryItems).forM fun i =>
            assignDirective codecs relaxedBool ignoreUnknown i.name i.value) s = .ok () s' ∧
          s'.entries = pre ++ post
  | [], pre, s, hs, _, _ => ⟨s, rfl, by simpa using hs⟩
  | (k, v) :: post, pre, s, hs, hnd, hcan => by
    have hk : k ∉ s.entries.map Prod.fst := by
      simp only [hs, List.map_append, List.map_cons] at hnd ⊢
      exact fun hk' => (List.nodup_append.mp hnd).2.2 hk' (List.mem_cons_self _ _)
    obtain ⟨s₁, hrun, hs₁⟩ := forM_entryItems_one codecs relaxedBool ignoreUnknown
      (hcan _ (.head _)) hk
    obtain ⟨s', hrun', hs'⟩ := forM_entryItems codecs relaxedBool ignoreUnknown post
      (pre ++ [(k, v)]) s₁ (by rw [hs₁, hs]) (by simpa using hnd) fun e he => hcan e (.tail _ he)
    refine ⟨s', ?_, by simpa using hs'⟩
    rw [List.flatMap_cons, List.forM_append, estate_bind_apply, hrun]
    exact hrun'

/-! ## The round trip -/

/-- A dict that `parse_directive_list` returns from no current settings, written back as a
directive list, is read as the same dict, with any flags. -/
theorem parseDirectiveList_writeDirectives (codecs : Codecs) (s : String)
    (relaxedBool ignoreUnknown : Bool) {d d' : PyDict}
    (h : parseDirectiveList codecs s relaxedBool ignoreUnknown none = .ok d d')
    (relaxedBool' ignoreUnknown' : Bool) :
    parseDirectiveList codecs (writeDirectives d) relaxedBool' ignoreUnknown' none = .ok d d := by
  have hcan := parseDirectiveList_canonical codecs s relaxedBool ignoreUnknown h
  by_cases hnil : d.entries = []
  · have hd : d = PyDict.empty := PyDict.ext hnil
    subst hd
    rfl
  -- otherwise the written items read as the entries, one after the other
  have hitems : ∀ i ∈ d.entries.flatMap entryItems, i.WellFormed := fun i hi => by
    obtain ⟨e, he, hi⟩ := List.mem_flatMap.mp hi
    exact ((hcan e he).items).1 i hi
  have hne : d.entries.flatMap entryItems ≠ [] := by
    obtain ⟨e, t, ht⟩ := List.exists_cons_of_ne_nil hnil
    rw [ht, List.flatMap_cons]
    exact fun happ => ((hcan e (ht ▸ List.mem_cons_self _ _)).items).2
      (List.append_eq_nil.mp happ).1
  obtain ⟨s', hrun, hs'⟩ := forM_entryItems codecs relaxedBool' ignoreUnknown' d.entries []
    PyDict.empty rfl (by simpa using d.nodup) hcan
  have hd : s' = d := PyDict.ext (by simpa using hs')
  subst hd
  simp only [parseDirectiveList, writeDirectives, pySplit_renderDirectives hitems hne,
    parseDirectiveItems_texts _ _ _ _ hitems, Option.getD_none, estate_bind_apply, hrun,
    estate_get_apply]

/-- Two `test_assert_path_exists` items and `c_string_type=unicode` are written back as the list
of both paths and `c_string_type=str`. -/
theorem parseDirectiveList_writeDirectives_paths :
    parseDirectiveList ⟨fun _ => none⟩
        "test_assert_path_exists=//A, c_string_type=unicode, test_assert_path_exists=//B"
        false false none =
      .ok ⟨[("test_assert_path_exists", .list ["//A", "//B"]), ("c_string_type", .str "str")],
          by decide⟩
        ⟨[("test_assert_path_exists", .list ["//A", "//B"]), ("c_string_type", .str "str")],
          by decide⟩ ∧
      parseDirectiveList ⟨fun _ => none⟩ (writeDirectives
          ⟨[("test_assert_path_exists", .list ["//A", "//B"]), ("c_string_type", .str "str")],
            by decide⟩) true true none =
        .ok ⟨[("test_assert_path_exists", .list ["//A", "//B"]), ("c_string_type", .str "str")],
            by decide⟩
          ⟨[("test_assert_path_exists", .list ["//A", "//B"]), ("c_string_type", .str "str")],
            by decide⟩ :=
  have h : parseDirectiveList ⟨fun _ => none⟩
      "test_assert_path_exists=//A, c_string_type=unicode, test_assert_path_exists=//B"
      false false none =
      .ok ⟨[("test_assert_path_exists", .list ["//A", "//B"]), ("c_string_type", .str "str")],
          by decide⟩
        ⟨[("test_assert_path_exists", .list ["//A", "//B"]), ("c_string_type", .str "str")],
          by decide⟩ := by rfl
  ⟨h, parseDirectiveList_writeDirectives ⟨fun _ => none⟩ _ false false h true true⟩

end CythonOptions
