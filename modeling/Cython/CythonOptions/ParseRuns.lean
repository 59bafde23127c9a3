import Cython.CythonOptions.Parse

/-!
# What `parse_directive_list` does with every text

The loop of `parse_directive_list` is a run over the items of `s.split(',')`, with the settings
dict as its state. Three facts about every input follow from the shape of that run.

A text made of two texts joined by a comma is parsed as the first and then the second, from the
dict the first left, and an exception in the first ends the whole
(`parseDirectiveList_append`). Text written from items, each a name and a value with any
whitespace around them, is read back as those assignments in order: the whitespace around a name
or a value is not seen, and the whitespace inside a value is kept (`parseDirectiveList_render`).
A name `<prefix>.all` does what the items `<directive>=<value>` do, one for each directive that
starts with the prefix, in the order of `_directive_defaults`; with no such directive it is an
unknown option (`assignDirective_all`).
-/

namespace CythonOptions

/-! ## Text joined by a comma -/

/-- A text joined from two by a comma is parsed as the first and then the second: the second
starts from the dict the first left, and an exception in the first ends the parse with the dict as
the first left it. -/
theorem parseDirectiveList_append (codecs : Codecs) (s₁ s₂ : String)
    (relaxedBool ignoreUnknown : Bool) (c : Option PyDict) :
    parseDirectiveList codecs (s₁ ++ "," ++ s₂) relaxedBool ignoreUnknown c =
      match parseDirectiveList codecs s₁ relaxedBool ignoreUnknown c with
      | .ok d _ => parseDirectiveList codecs s₂ relaxedBool ignoreUnknown (some d)
      | .error e d => .error e d := by
  have hsplit : pySplit (s₁ ++ "," ++ s₂) ',' = pySplit s₁ ',' ++ pySplit s₂ ',' :=
    pySplit_append_sep s₁ s₂ ','
  simp only [parseDirectiveList, hsplit, parseDirectiveItems_append, estate_bind_apply,
    estate_get_apply, Option.getD_some]
  cases parseDirectiveItems codecs relaxedBool ignoreUnknown (pySplit s₁ ',')
    (c.getD PyDict.empty) <;> rfl

/-! ## Text written from items -/

/-- An item of a directive list as a writer lays it out: whitespace, the name, whitespace, `=`,
whitespace, the value, whitespace. -/
structure DirectiveItem where
  /-- Whitespace before the name. -/
  lead : String
  /-- The name. -/
  name : String
  /-- Whitespace between the name and `=`. -/
  beforeEq : String
  /-- Whitespace between `=` and the value. -/
  afterEq : String
  /-- The value. -/
  value : String
  /-- Whitespace after the value. -/
  trail : String

/-- The text of an item. -/
def DirectiveItem.text (i : DirectiveItem) : String :=
  i.lead ++ i.name ++ i.beforeEq ++ "=" ++ i.afterEq ++ i.value ++ i.trail

/-- An item that reads back as written: the padding is whitespace, the name and the value neither
start nor end with whitespace nor hold a comma, and the name holds no `=`. -/
structure DirectiveItem.WellFormed (i : DirectiveItem) : Prop where
  lead : IsSpaces i.lead
  beforeEq : IsSpaces i.beforeEq
  afterEq : IsSpaces i.afterEq
  trail : IsSpaces i.trail
  name_stripped : pyStrip i.name = i.name
  value_stripped : pyStrip i.value = i.value
  name_no_eq : '=' ∉ i.name.data
  name_no_comma : ',' ∉ i.name.data
  value_no_comma : ',' ∉ i.value.data

/-- A directive list written from items: their texts, joined by commas. -/
def renderDirectives (items : List DirectiveItem) : String :=
  ⟨[','].intercalate (items.map fun i => i.text.data)⟩

/-- A character that `strip()` keeps is not in a text of whitespace. -/
theorem not_mem_of_isSpaces {w : String} {c : Char} (hw : IsSpaces w) (hc : pyIsSpace c = false) :
    c ∉ w.data := fun h => by simpa [hc] using hw c h

/-- One item's text is the assignment of its value to its name. -/
theorem parseDirectiveItem_text (codecs : Codecs) (relaxedBool ignoreUnknown : Bool)
    {i : DirectiveItem} (hi : i.WellFormed) :
    parseDirectiveItem codecs relaxedBool ignoreUnknown i.text =
      assignDirective codecs relaxedBool ignoreUnknown i.name i.value := by
  -- The text is a part without `=`, `=`, and the rest.
  have heq : pyIsSpace '=' = false := by decide
  set a : String := i.lead ++ i.name ++ i.beforeEq
  set b : String := i.afterEq ++ i.value ++ i.trail
  have htext : i.text = a ++ ⟨['=']⟩ ++ b := String.ext (by simp [DirectiveItem.text, a, b])
  have hstrip : pyStrip i.text =
      ⟨a.data.dropWhile pyIsSpace⟩ ++ ⟨['=']⟩ ++ ⟨b.data.rdropWhile pyIsSpace⟩ := by
    rw [htext, pyStrip_append_sep a b heq]
    exact String.ext (by simp)
  have hstrip₂ : pyStrip (pyStrip i.text) = pyStrip i.text := by
    rw [hstrip, pyStrip_append_sep _ _ heq]
    exact String.ext (by simp [List.dropWhile_idempotent, List.rdropWhile_idempotent])
  have ha : '=' ∉ (⟨a.data.dropWhile pyIsSpace⟩ : String).data := fun h => by
    have := List.dropWhile_subset _ h
    simp only [a, String.data_append, List.mem_append] at this
    exact this.elim (·.elim (not_mem_of_isSpaces hi.lead heq) hi.name_no_eq)
      (not_mem_of_isSpaces hi.beforeEq heq)
  have hname : pyStrip ⟨a.data.dropWhile pyIsSpace⟩ = i.name := by
    rw [pyStrip_dropWhile, pyStrip_spaces_append _ _ _ hi.lead hi.beforeEq, hi.name_stripped]
  have hvalue : pyStrip ⟨b.data.rdropWhile pyIsSpace⟩ = i.value := by
    rw [pyStrip_rdropWhile, pyStrip_spaces_append _ _ _ hi.afterEq hi.trail, hi.value_stripped]
  have hmem : '=' ∈ (pyStrip i.text).data := by simp [hstrip]
  have hne : pyStrip i.text ≠ "" := fun h => by simp [h] at hmem
  simp only [parseDirectiveItem]
  rw [if_neg hne, if_neg (not_not.mpr hmem), hstrip₂, hstrip, pySplitOnce_append _ _ _ ha]
  simp only [hname, hvalue]

/-- The items' texts are the items' assignments, one after the other. -/
theorem parseDirectiveItems_texts (codecs : Codecs) (relaxedBool ignoreUnknown : Bool) :
    ∀ items : List DirectiveItem, (∀ i ∈ items, i.WellFormed) →
      parseDirectiveItems codecs relaxedBool ignoreUnknown (items.map DirectiveItem.text) =
        items.forM fun i => assignDirective codecs relaxedBool ignoreUnknown i.name i.value
  | [], _ => rfl
  | i :: items, h => by
    simp only [List.map_cons, parseDirectiveItems, List.forM_cons',
      parseDirectiveItem_text codecs relaxedBool ignoreUnknown (h i (.head _)),
      parseDirectiveItems_texts codecs relaxedBool ignoreUnknown items fun j hj => h j (.tail _ hj)]

/-- A directive list written from items splits at its commas into the items' texts. -/
theorem pySplit_renderDirectives {items : List DirectiveItem} (hwf : ∀ i ∈ items, i.WellFormed)
    (hnil : items ≠ []) : pySplit (renderDirectives items) ',' = items.map DirectiveItem.text := by
  have hcomma : ∀ t ∈ items.map DirectiveItem.text, ',' ∉ t.data := by
    have hc : pyIsSpace ',' = false := by decide
    simp only [List.mem_map]
    rintro _ ⟨i, hi, rfl⟩
    have h := hwf i hi
    simp [DirectiveItem.text, not_mem_of_isSpaces h.lead hc, not_mem_of_isSpaces h.beforeEq hc,
      not_mem_of_isSpaces h.afterEq hc, not_mem_of_isSpaces h.trail hc, h.name_no_comma,
      h.value_no_comma]
  have := pySplit_intercalate ',' (items.map DirectiveItem.text) (by simpa using hnil) hcomma
  simpa [renderDirectives, Function.comp_def] using this

/-- The round trip of the directive format: a directive list written from items, with any
whitespace around each name and each value, is parsed as the assignments of the items, in order,
from the dict given; the whitespace around a name or a value is not seen and the whitespace in a
value is kept. -/
theorem parseDirectiveList_render (codecs : Codecs) (items : List DirectiveItem)
    (hwf : ∀ i ∈ items, i.WellFormed) (relaxedBool ignoreUnknown : Bool) (c : Option PyDict) :
    parseDirectiveList codecs (renderDirectives items) relaxedBool ignoreUnknown c =
      (items.forM (fun i => assignDirective codecs relaxedBool ignoreUnknown i.name i.value) >>=
        fun _ => get) (c.getD PyDict.empty) := by
  by_cases hnil : items = []
  · subst hnil
    rfl
  · simp only [parseDirectiveList, pySplit_renderDirectives hwf hnil,
      parseDirectiveItems_texts _ _ _ items hwf]

/-- Two items with the whitespace a writer might leave, read as `boundscheck=False` and
`callspec=a b`. -/
theorem parseDirectiveList_render_two :
    (∀ i ∈ [(⟨" ", "boundscheck", " ", "", "False", ""⟩ : DirectiveItem),
        ⟨"", "callspec", "", " ", "a b", " "⟩], i.WellFormed) ∧
      parseDirectiveList ⟨fun _ => none⟩ (renderDirectives
          [⟨" ", "boundscheck", " ", "", "False", ""⟩, ⟨"", "callspec", "", " ", "a b", " "⟩])
          false false none =
        ([(⟨" ", "boundscheck", " ", "", "False", ""⟩ : DirectiveItem),
            ⟨"", "callspec", "", " ", "a b", " "⟩].forM
          (fun i => assignDirective ⟨fun _ => none⟩ false false i.name i.value) >>=
          fun _ => get) ((none : Option PyDict).getD PyDict.empty) := by
  have hwf : ∀ i ∈ [(⟨" ", "boundscheck", " ", "", "False", ""⟩ : DirectiveItem),
      ⟨"", "callspec", "", " ", "a b", " "⟩], i.WellFormed := by
    simp only [List.mem_cons, List.mem_singleton, List.not_mem_nil, or_false]
    rintro i (rfl | rfl) <;> exact ⟨by decide, by decide, by decide, by decide, by decide,
      by decide, by decide, by decide, by decide⟩
  exact ⟨hwf, parseDirectiveList_render ⟨fun _ => none⟩ _ hwf false false none⟩

/-! ## The `.all` form -/

/-- The directives that `<pfx>all` names: those of `_directive_defaults` that start with `pfx`,
in its order. -/
def directivesWithPrefix (pfx : String) : List String :=
  directiveDefaults.keys.filter fun d => pyStartsWith d pfx

/-- A directive of `_directive_defaults` that does not hold a list is set to its value as
`parse_directive_value` reads it. -/
theorem assignDirective_of_mem (codecs : Codecs) (relaxedBool ignoreUnknown : Bool)
    {name : String} (value : String) (hmem : name ∈ directiveDefaults.keys)
    (hlist : directiveType name ≠ some .list) :
    assignDirective codecs relaxedBool ignoreUnknown name value =
      (liftExcept (parseDirectiveValue codecs name value relaxedBool) >>= fun parsedValue =>
        modify fun result => result.setItem name parsedValue) := by
  simp [assignDirective, hmem, hlist]

/-- A name that starts with a text ending in `.` has a dot. -/
theorem dot_mem_of_startsWith {d pfx : String} (hdot : pyEndsWith pfx "." = true)
    (h : pyStartsWith d pfx = true) : '.' ∈ d.data := by
  obtain ⟨p, hp⟩ := List.isSuffixOf_iff_suffix.mp hdot
  obtain ⟨r, hr⟩ := List.isPrefixOf_iff_prefix.mp h
  rw [← hr, ← hp]
  simp

/-- The inner loop for `<pfx>all` sets the directives that start with `pfx` one after the other,
as their own items would, and reports whether there was one. -/
theorem setAllDirectives_eq (codecs : Codecs) (relaxedBool ignoreUnknown : Bool)
    {pfx : String} (value : String) (hdot : pyEndsWith pfx "." = true) :
    ∀ directives : List String, (∀ d ∈ directives, d ∈ directiveDefaults.keys) →
      setAllDirectives codecs relaxedBool pfx value directives =
        ((directives.filter fun d => pyStartsWith d pfx).forM
            (fun d => assignDirective codecs relaxedBool ignoreUnknown d value) >>= fun _ =>
          pure (directives.any fun d => pyStartsWith d pfx))
  | [], _ => by simp [setAllDirectives]
  | d :: directives, hmem => by
    have ih := setAllDirectives_eq codecs relaxedBool ignoreUnknown value hdot directives
      fun d' hd' => hmem d' (.tail _ hd')
    by_cases h : pyStartsWith d pfx = true
    · have hd := assignDirective_of_mem codecs relaxedBool ignoreUnknown value (hmem d (.head _))
        (directiveType_ne_list_of_dot d (hmem d (.head _)) (dot_mem_of_startsWith hdot h))
      simp [setAllDirectives, h, ih, hd]
    · simp [setAllDirectives, h, ih]

/-- `any` asks whether `filter` keeps something. -/
theorem any_eq_filter_ne_nil {α : Type} [DecidableEq α] (p : α → Bool) :
    ∀ l : List α, l.any p = !decide (l.filter p = [])
  | [] => rfl
  | a :: l => by cases h : p a <;> simp [List.filter_cons, h, any_eq_filter_ne_nil p l]

/-- A name `<pfx>all` that is not itself a directive, with `pfx` ending in `.`, does what the
items `<directive>=<value>` do for each directive that starts with `pfx`, in the order of
`_directive_defaults`; when no directive starts with `pfx` it is an unknown option, which
`ignore_unknown` skips. -/
theorem assignDirective_all (codecs : Codecs) (relaxedBool ignoreUnknown : Bool)
    (pfx value : String) (hdot : pyEndsWith pfx "." = true)
    (hname : pfx ++ "all" ∉ directiveDefaults.keys) :
    assignDirective codecs relaxedBool ignoreUnknown (pfx ++ "all") value =
      if directivesWithPrefix pfx = [] then
        (if ignoreUnknown then pure ()
          else throw (.valueError ("Unknown option: " ++ pyDQuote (pfx ++ "all"))))
      else (directivesWithPrefix pfx).forM
        fun d => assignDirective codecs relaxedBool ignoreUnknown d value := by
  have hends : pyEndsWith (pfx ++ "all") ".all" = true := by
    obtain ⟨p, hp⟩ := List.isSuffixOf_iff_suffix.mp hdot
    exact List.isSuffixOf_iff_suffix.mpr ⟨p, by simp [← hp]⟩
  have hdrop : pyDropLast (pfx ++ "all") 3 = pfx := String.ext (by simp [pyDropLast])
  have hfilter : (directiveDefaults.keys.filter fun d => pyStartsWith d pfx) =
      directivesWithPrefix pfx := rfl
  conv_lhs => rw [assignDirective]
  simp only [if_pos hname, if_pos hends, hdrop,
    setAllDirectives_eq codecs relaxedBool ignoreUnknown value hdot _ fun _ hd => hd,
    any_eq_filter_ne_nil, hfilter, bind_assoc, pure_bind]
  by_cases hnil : directivesWithPrefix pfx = []
  · cases ignoreUnknown <;> simp [hnil]
  · simp [hnil]

/-- `warn.all` sets the nine directives under `warn.`, as their own items would. -/
theorem assignDirective_all_warn :
    pyEndsWith "warn." "." = true ∧ "warn." ++ "all" ∉ directiveDefaults.keys ∧
      assignDirective ⟨fun _ => none⟩ false false ("warn." ++ "all") "True" =
        if directivesWithPrefix "warn." = [] then
          (if false then pure ()
            else throw (.valueError ("Unknown option: " ++ pyDQuote ("warn." ++ "all"))))
        else (directivesWithPrefix "warn.").forM
          fun d => assignDirective ⟨fun _ => none⟩ false false d "True" :=
  ⟨by decide, by decide,
    assignDirective_all ⟨fun _ => none⟩ false false "warn." "True" (by decide) (by decide)⟩

end CythonOptions
