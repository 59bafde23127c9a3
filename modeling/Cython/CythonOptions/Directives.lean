import Cython.CythonOptions.Python

/-!
# The directive tables of `Cython.Compiler.Options`

`_directive_defaults` names every compiler directive that a directive list may set, with its
default, in the order of the source. `directive_types` gives, for some directives and for names
that only decorators use, what `parse_directive_value` checks a value with: a class (`bool`, `int`,
`str`, `dict`, `type`), a validator made by `one_of`, `normalise_encoding_name`, the marker
`DEFER_ANALYSIS_OF_ARGUMENTS`, or `None`. The loop after the literal gives every other directive
of `_directive_defaults` the class of its default; that is how `warn`, whose default is `None`,
comes to be checked with `NoneType`, and how the four `test_` directives come to hold lists.
The last line of the module updates `_directive_defaults` with `OPTIMIZED_OPTIONS`: that changes
25 defaults but adds no name, and it runs after `directive_types` is built. The parser reads only
the names of `_directive_defaults` and their order, so the table here keeps the literal's values.

`directiveType_ne_list_of_dot` is the fact about the tables that the `.all` form of a directive
list relies on: no directive whose name has a dot holds a list. `directiveType_oneOfMap` is the
one that writing a value back relies on: no `one_of` maps a value to a name it maps again.
-/

namespace CythonOptions

/-- A value of `directive_types`: a class, a validator, or `DEFER_ANALYSIS_OF_ARGUMENTS`. -/
inductive DirectiveType where
  /-- The class `bool`. -/
  | bool
  /-- The class `int`. -/
  | int
  /-- The class `str`. -/
  | str
  /-- The class `list`. -/
  | list
  /-- The class `dict`. -/
  | dict
  /-- The class `type`. -/
  | type
  /-- The class of `None`, `NoneType`. -/
  | noneType
  /-- The validator `one_of(*args, map=map)`. -/
  | oneOf (args : List String) (map : List (String × String))
  /-- The function `normalise_encoding_name`. -/
  | normaliseEncodingName
  /-- `DEFER_ANALYSIS_OF_ARGUMENTS`, an instance of a class without `__call__`. -/
  | deferAnalysisOfArguments
  deriving DecidableEq, Repr

/-- `type(val)`: the class of a value. -/
def typeOf : PyValue → DirectiveType
  | .none => .noneType
  | .bool _ => .bool
  | .int _ => .int
  | .str _ => .str
  | .list _ => .list

/-- The items of `_directive_defaults`, in the order of the source. -/
def directiveDefaultItems : List (String × PyValue) := [
    ("binding", PyValue.bool true), ("boundscheck", PyValue.bool true),
    ("nonecheck", PyValue.bool false), ("initializedcheck", PyValue.bool true),
    ("freethreading_compatible", PyValue.bool false), ("embedsignature", PyValue.bool false),
    ("embedsignature.format", PyValue.str "c"), ("auto_cpdef", PyValue.bool false),
    ("auto_pickle", PyValue.none), ("cdivision", PyValue.bool false),
    ("cdivision_warnings", PyValue.bool false), ("cpow", PyValue.none),
    ("c_api_binop_methods", PyValue.bool false), ("overflowcheck", PyValue.bool false),
    ("overflowcheck.fold", PyValue.bool true), ("always_allow_keywords", PyValue.bool true),
    ("allow_none_for_extension_args", PyValue.bool true), ("wraparound", PyValue.bool true),
    ("ccomplex", PyValue.bool false), ("callspec", PyValue.str ""), ("nogil", PyValue.bool false),
    ("gil", PyValue.bool false), ("with_gil", PyValue.bool false), ("profile", PyValue.bool false),
    ("linetrace", PyValue.bool false), ("emit_code_comments", PyValue.bool true),
    ("annotation_typing", PyValue.bool true), ("infer_types", PyValue.none),
    ("infer_types.verbose", PyValue.bool false), ("autotestdict", PyValue.bool true),
    ("autotestdict.cdef", PyValue.bool false), ("autotestdict.all", PyValue.bool false),
    ("language_level", PyValue.none), ("fast_getattr", PyValue.bool false),
    ("py2_import", PyValue.bool false), ("preliminary_late_includes_cy28", PyValue.bool false),
    ("iterable_coroutine", PyValue.bool false), ("c_string_type", PyValue.str "bytes"),
    ("c_string_encoding", PyValue.str ""), ("type_version_tag", PyValue.bool true),
    ("unraisable_tracebacks", PyValue.bool true), ("old_style_globals", PyValue.bool false),
    ("np_pythran", PyValue.bool false), ("fast_gil", PyValue.bool false),
    ("cpp_locals", PyValue.bool false), ("legacy_implicit_noexcept", PyValue.bool false),
    ("set_initial_path", PyValue.none), ("warn", PyValue.none),
    ("warn.undeclared", PyValue.bool false), ("warn.unreachable", PyValue.bool true),
    ("warn.maybe_uninitialized", PyValue.bool false), ("warn.unused", PyValue.bool false),
    ("warn.unused_arg", PyValue.bool false), ("warn.unused_result", PyValue.bool false),
    ("warn.multiple_declarators", PyValue.bool true), ("warn.deprecated.DEF", PyValue.bool false),
    ("warn.deprecated.IF", PyValue.bool true), ("show_performance_hints", PyValue.bool true),
    ("optimize.inline_defnode_calls", PyValue.bool true),
    ("optimize.unpack_method_calls", PyValue.bool true),
    ("optimize.unpack_method_calls_in_pyinit", PyValue.bool false),
    ("optimize.use_switch", PyValue.bool true), ("remove_unreachable", PyValue.bool true),
    ("control_flow.dot_output", PyValue.str ""),
    ("control_flow.dot_annotate_defs", PyValue.bool false),
    ("test_assert_path_exists", PyValue.list []), ("test_fail_if_path_exists", PyValue.list []),
    ("test_assert_c_code_has", PyValue.list []), ("test_fail_if_c_code_has", PyValue.list []),
    ("formal_grammar", PyValue.bool false)]

/-- No name occurs twice. The check compares a numeric code of each name, which the kernel
evaluates faster than the names themselves. -/
theorem directiveDefaultItems_nodup : (directiveDefaultItems.map Prod.fst).Nodup :=
  List.Nodup.of_map (fun s : String => s.data.foldl (fun n c => 128 * n + c.toNat) 0) (by decide)

/-- `_directive_defaults`. -/
def directiveDefaults : PyDict := ⟨directiveDefaultItems, directiveDefaultItems_nodup⟩

/-- The literal of `directive_types`; `None` stands for the entries mapped to `None`. -/
def explicitDirectiveTypes : List (String × Option DirectiveType) := [
    ("language_level", some .str), ("auto_pickle", some .bool), ("locals", some .dict),
    ("final", some .bool), ("collection_type", some (.oneOf ["sequence"] [])),
    ("nogil", some .deferAnalysisOfArguments), ("gil", some .deferAnalysisOfArguments),
    ("critical_section", some .deferAnalysisOfArguments), ("with_gil", none),
    ("internal", some .bool), ("infer_types", some .bool), ("binding", some .bool),
    ("cfunc", none), ("ccall", none), ("ufunc", none), ("cpow", some .bool), ("inline", none),
    ("staticmethod", none), ("cclass", none), ("no_gc_clear", some .bool), ("no_gc", some .bool),
    ("returns", some .type), ("exceptval", some .type), ("set_initial_path", some .str),
    ("freelist", some .int),
    ("c_string_type", some (.oneOf ["bytes", "bytearray", "str", "unicode"] [("unicode", "str")])),
    ("c_string_encoding", some .normaliseEncodingName), ("trashcan", some .bool),
    ("total_ordering", none), ("dataclasses.dataclass", some .deferAnalysisOfArguments),
    ("dataclasses.field", some .deferAnalysisOfArguments),
    ("embedsignature.format", some (.oneOf ["c", "clinic", "python"] []))]

/-- `directive_types` after the loop `for key, val in _directive_defaults.items(): if key not in
directive_types: directive_types[key] = type(val)`. The keys of `_directive_defaults` are
distinct, so a key the loop adds is never met again. -/
def directiveTypes : List (String × Option DirectiveType) :=
  explicitDirectiveTypes ++
    (directiveDefaults.entries.filter fun e => e.1 ∉ explicitDirectiveTypes.map Prod.fst).map
      fun e => (e.1, some (typeOf e.2))

/-- `directive_types.get(name)`, which is `None` both for a name it lacks and for a name it maps to
`None`. -/
def directiveType (name : String) : Option DirectiveType := (directiveTypes.lookup name).join

/-- A type of `directive_types` is written in its literal or is the class of a default. -/
theorem directiveType_cases {name : String} {t : DirectiveType} (h : directiveType name = some t) :
    (name, some t) ∈ explicitDirectiveTypes ∨
      ∃ v, (name, v) ∈ directiveDefaults.entries ∧ t = typeOf v := by
  have hmem : (name, some t) ∈ directiveTypes := by
    obtain ⟨l₁, l₂, hl, -⟩ := List.lookup_eq_some_iff.mp (Option.join_eq_some.mp h)
    simp [hl]
  rcases List.mem_append.mp hmem with hexplicit | hderived
  · exact .inl hexplicit
  · obtain ⟨e, he, heq⟩ := List.mem_map.mp hderived
    cases heq
    exact .inr ⟨e.2, (List.mem_filter.mp he).1, rfl⟩

/-- No directive whose name has a dot holds a list: the `test_` directives are the only ones that
do. -/
theorem directiveType_ne_list_of_dot :
    ∀ d ∈ directiveDefaults.keys, '.' ∈ d.data → directiveType d ≠ some .list := by
  intro d _ hdot hlist
  rcases directiveType_cases hlist with hexplicit | ⟨v, hv, htype⟩
  · have htable : ∀ e ∈ explicitDirectiveTypes, e.2 ≠ some .list := by decide
    exact htable _ hexplicit rfl
  · have htable : ∀ e ∈ directiveDefaults.entries, '.' ∈ e.1.data → typeOf e.2 ≠ .list := by
      decide
    exact htable _ hv hdot htype.symm

/-- The map of a `one_of` validator; the other types have none. -/
def DirectiveType.oneOfMap : DirectiveType → List (String × String)
  | .oneOf _ map => map
  | _ => []

/-- No `one_of` of `directive_types` maps a value to a name that it maps again, and the names it
maps to are texts that an item keeps: the only map, that of `c_string_type`, sends `unicode` to
`str`. -/
theorem directiveType_oneOfMap {name : String} {t : DirectiveType}
    (h : directiveType name = some t) :
    ∀ p ∈ t.oneOfMap, t.oneOfMap.lookup p.2 = none ∧ ItemSafe p.2 := by
  rcases directiveType_cases h with hexplicit | ⟨v, -, rfl⟩
  · have htable : ∀ e ∈ explicitDirectiveTypes, ∀ t ∈ e.2, ∀ p ∈ t.oneOfMap,
        t.oneOfMap.lookup p.2 = none ∧ ItemSafe p.2 := by decide
    exact htable _ hexplicit t rfl
  · cases v <;> simp [typeOf, DirectiveType.oneOfMap]

/-- A letter, a digit, `_` or `.` is neither whitespace, nor a comma, nor `=`. -/
theorem nameChar_safe {c : Char} (h : c.isAlphanum = true ∨ c = '_' ∨ c = '.') :
    pyIsSpace c = false ∧ c ≠ ',' ∧ c ≠ '=' := by
  rcases h with h | rfl | rfl
  · simp only [Char.isAlphanum, Char.isAlpha, Char.isUpper, Char.isLower, Char.isDigit,
      Bool.or_eq_true, Bool.and_eq_true, decide_eq_true_eq] at h
    have hc : (65 ≤ c.toNat ∧ c.toNat ≤ 90 ∨ 97 ≤ c.toNat ∧ c.toNat ≤ 122) ∨
        48 ≤ c.toNat ∧ c.toNat ≤ 57 := h
    refine ⟨?_, fun h' => ?_, fun h' => ?_⟩
    · simp only [pyIsSpace]
      generalize c.toNat = n at *
      simp only [Bool.or_eq_false_iff, Bool.and_eq_false_iff, decide_eq_false_iff_not,
        beq_eq_false_iff_ne, ne_eq]
      omega
    · subst h'; simp at hc
    · subst h'; simp at hc
  all_goals decide

/-- The names of `_directive_defaults` are texts that an item keeps, without `=`: they are made of
letters, digits, `_` and `.`. -/
theorem directiveDefaults_keys_itemSafe :
    ∀ k ∈ directiveDefaults.keys, ItemSafe k ∧ '=' ∉ k.data := by
  have htable : ∀ k ∈ directiveDefaults.keys, ∀ c ∈ k.data,
      c.isAlphanum = true ∨ c = '_' ∨ c = '.' := by decide
  intro k hk
  have hsafe := fun c hc => nameChar_safe (htable k hk c hc)
  exact ⟨⟨fun hc => (hsafe _ hc).2.1 rfl,
    pyStrip_eq_self (fun c hc => (hsafe c (List.mem_of_mem_head? hc)).1)
      fun c hc => (hsafe c (List.mem_of_getLast?_eq_some hc)).1⟩, fun hc => (hsafe _ hc).2.2 rfl⟩

end CythonOptions
