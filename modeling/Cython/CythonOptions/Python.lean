import Mathlib.Data.List.Basic
import Mathlib.Data.List.DropRight
import Mathlib.Data.List.Nodup

/-!
# Python's strings and dicts, as the directive parser uses them

`Cython.Compiler.Options` reads a directive list with a handful of `str` methods: `split(',')`,
`strip()`, `split('=', 1)`, `lower()`, `endswith`, `startswith` and a slice. A Python `str` is a
sequence of code points, so each method is written here on the characters of a Lean `String`:
`split` is `List.splitOn`, and `strip` drops the characters that `str.isspace()` accepts from
both ends. The parser keeps its result in a `dict`; `PyDict` is a list of items in insertion order
whose keys are distinct, which is how a Python `dict` iterates and updates.

The lemmas are the ones the parser's proofs need: whitespace around a text is not seen by `strip`
(`pyStrip_spaces_append`), splitting text joined by a separator splits each part
(`pySplit_append_sep`), and splitting text written with the separator between parts that do not
hold it gives the parts back (`pySplit_intercalate`).
-/

namespace CythonOptions

/-! ## Strings -/

/-- `str.isspace()` of one character, which is what `str.strip()` removes: the controls `\t` to
`\r`, the separators `\x1c` to `\x1f`, the space, and the spaces of Unicode (`U+0085`, `U+00A0`,
`U+1680`, `U+2000` to `U+200A`, `U+2028`, `U+2029`, `U+202F`, `U+205F`, `U+3000`). -/
def pyIsSpace (c : Char) : Bool :=
  (0x09 ≤ c.toNat && c.toNat ≤ 0x0D) || (0x1C ≤ c.toNat && c.toNat ≤ 0x20) || c.toNat == 0x85 ||
    c.toNat == 0xA0 || c.toNat == 0x1680 || (0x2000 ≤ c.toNat && c.toNat ≤ 0x200A) ||
    c.toNat == 0x2028 || c.toNat == 0x2029 || c.toNat == 0x202F || c.toNat == 0x205F ||
    c.toNat == 0x3000

/-- `s.strip()`. -/
def pyStrip (s : String) : String := ⟨(s.data.dropWhile pyIsSpace).rdropWhile pyIsSpace⟩

/-- `s.split(sep)`: every occurrence of `sep` separates two parts, which may be empty. -/
def pySplit (s : String) (sep : Char) : List String := (s.data.splitOn sep).map String.mk

/-- `s.split(sep, 1)` of a string that holds `sep`: the text before the first `sep`, and the text
after it. -/
def pySplitOnce (s : String) (sep : Char) : String × String :=
  (⟨s.data.takeWhile (· != sep)⟩, ⟨(s.data.dropWhile (· != sep)).drop 1⟩)

/-- `s.lower()`. It maps the letters `A` to `Z`; the words it is compared with are ASCII, and no
other character lowers to one of their letters alone. -/
def pyLower (s : String) : String := ⟨s.data.map Char.toLower⟩

/-- `s[:-n]`. -/
def pyDropLast (s : String) (n : Nat) : String := ⟨s.data.take (s.data.length - n)⟩

/-- `s.endswith(t)`. -/
def pyEndsWith (s t : String) : Bool := t.data.isSuffixOf s.data

/-- `s.startswith(t)`. -/
def pyStartsWith (s t : String) : Bool := t.data.isPrefixOf s.data

/-- A string of whitespace only. -/
def IsSpaces (w : String) : Prop := ∀ c ∈ w.data, pyIsSpace c = true

instance (w : String) : Decidable (IsSpaces w) :=
  inferInstanceAs (Decidable (∀ c ∈ w.data, pyIsSpace c = true))

/-- `rdropWhile` does not see what it drops at the end. -/
theorem rdropWhile_append_of_forall {p : Char → Bool} (l w : List Char) (hw : ∀ c ∈ w, p c) :
    (l ++ w).rdropWhile p = l.rdropWhile p := by
  simp only [List.rdropWhile, List.reverse_append]
  rw [List.dropWhile_append_of_pos (by simpa using hw)]

/-- Whitespace around a text is not seen by `strip()`. -/
theorem pyStrip_spaces_append (w₁ s w₂ : String) (h₁ : IsSpaces w₁) (h₂ : IsSpaces w₂) :
    pyStrip (w₁ ++ s ++ w₂) = pyStrip s := by
  simp only [pyStrip, String.data_append, List.append_assoc]
  congr 1
  rw [List.dropWhile_append_of_pos h₁, List.dropWhile_append]
  split
  · next hs =>
    have hnil : s.data.dropWhile pyIsSpace = [] := List.isEmpty_iff.mp hs
    rw [hnil, List.dropWhile_eq_nil_iff.mpr h₂]
  · exact rdropWhile_append_of_forall _ _ h₂

/-- `strip()` leaves a text alone that neither starts nor ends with whitespace. -/
theorem pyStrip_eq_self {s : String} (hhead : ∀ c ∈ s.data.head?, pyIsSpace c = false)
    (hlast : ∀ c ∈ s.data.getLast?, pyIsSpace c = false) : pyStrip s = s := by
  obtain ⟨l⟩ := s
  have hdrop : l.dropWhile pyIsSpace = l := by
    cases l with
    | nil => rfl
    | cons c l => simp [List.dropWhile_cons, hhead c rfl]
  simp only [pyStrip, hdrop]
  congr 1
  refine List.rdropWhile_eq_self_iff.mpr fun hl => ?_
  exact Bool.eq_false_iff.mp (hlast _ (List.getLast?_eq_getLast l hl))

/-- `dropWhile` stops at a character it does not drop. -/
theorem dropWhile_append_cons_of_not {p : Char → Bool} {c : Char} (hc : p c = false)
    (l₁ l₂ : List Char) : (l₁ ++ c :: l₂).dropWhile p = l₁.dropWhile p ++ c :: l₂ := by
  rw [List.dropWhile_append]
  split
  · next h => rw [List.isEmpty_iff.mp h]; simp [List.dropWhile_cons, hc]
  · rfl

/-- `strip()` of a text with a character that is not whitespace: the whitespace goes from the
part before it at the start and from the part after it at the end. -/
theorem pyStrip_append_sep (a b : String) {c : Char} (hc : pyIsSpace c = false) :
    pyStrip (a ++ ⟨[c]⟩ ++ b) =
      ⟨a.data.dropWhile pyIsSpace ++ c :: b.data.rdropWhile pyIsSpace⟩ := by
  simp only [pyStrip, String.data_append, List.append_assoc, List.singleton_append,
    dropWhile_append_cons_of_not hc]
  congr 1
  simp only [List.rdropWhile, List.reverse_append, List.reverse_cons, List.append_assoc,
    List.singleton_append, dropWhile_append_cons_of_not hc, List.reverse_reverse]

/-- `strip()` does not see the whitespace that `dropWhile` took from the start. -/
theorem pyStrip_dropWhile (a : String) : pyStrip ⟨a.data.dropWhile pyIsSpace⟩ = pyStrip a :=
  calc pyStrip ⟨a.data.dropWhile pyIsSpace⟩
      = pyStrip (⟨a.data.takeWhile pyIsSpace⟩ ++ ⟨a.data.dropWhile pyIsSpace⟩ ++ "") :=
        (pyStrip_spaces_append _ _ _ (fun _ hc => List.mem_takeWhile_imp hc)
          (by simp [IsSpaces])).symm
    _ = pyStrip a := congrArg pyStrip (String.ext (by simp))

/-- `strip()` does not see the whitespace that `rdropWhile` took from the end. -/
theorem pyStrip_rdropWhile (b : String) : pyStrip ⟨b.data.rdropWhile pyIsSpace⟩ = pyStrip b :=
  calc pyStrip ⟨b.data.rdropWhile pyIsSpace⟩
      = pyStrip ("" ++ ⟨b.data.rdropWhile pyIsSpace⟩ ++ ⟨b.data.rtakeWhile pyIsSpace⟩) :=
        (pyStrip_spaces_append _ _ _ (by simp [IsSpaces])
          (fun _ hc => List.mem_rtakeWhile_imp hc)).symm
    _ = pyStrip b := congrArg pyStrip (String.ext (by
        simp [List.rdropWhile, List.rtakeWhile, ← List.reverse_append]))

/-- `split(sep)` of two texts joined by `sep` is the split of the first followed by the split of
the second. -/
theorem splitOn_append_cons (sep : Char) (l₁ l₂ : List Char) :
    (l₁ ++ sep :: l₂).splitOn sep = l₁.splitOn sep ++ l₂.splitOn sep := by
  induction l₁ with
  | nil => simp [List.splitOn]
  | cons c l₁ ih =>
    simp only [List.splitOn, List.cons_append, List.splitOnP_cons] at ih ⊢
    split
    · rw [ih]; rfl
    · rw [ih]
      obtain ⟨w, ws, hw⟩ := List.exists_cons_of_ne_nil (List.splitOnP_ne_nil (· == sep) l₁)
      rw [hw]
      rfl

theorem pySplit_append_sep (s₁ s₂ : String) (sep : Char) :
    pySplit (s₁ ++ ⟨[sep]⟩ ++ s₂) sep = pySplit s₁ sep ++ pySplit s₂ sep := by
  simp only [pySplit, String.data_append, List.append_assoc, List.singleton_append,
    splitOn_append_cons, List.map_append]

/-- `split(sep)` of parts written with `sep` between them gives the parts back, when no part holds
`sep`. -/
theorem pySplit_intercalate (sep : Char) (parts : List String) (hne : parts ≠ [])
    (hsep : ∀ p ∈ parts, sep ∉ p.data) :
    pySplit ⟨[sep].intercalate (parts.map String.data)⟩ sep = parts := by
  rw [pySplit, List.splitOn_intercalate _ sep (by simpa using hsep) (by simpa using hne)]
  simp [Function.comp_def]

/-- `split(sep, 1)` of a text with `sep` after a part that does not hold it: that part, and the
rest. -/
theorem pySplitOnce_append (a b : String) (sep : Char) (ha : sep ∉ a.data) :
    pySplitOnce (a ++ ⟨[sep]⟩ ++ b) sep = (a, b) := by
  have hall : ∀ c ∈ a.data, (c != sep) = true := fun c hc =>
    bne_iff_ne.mpr fun h => ha (h ▸ hc)
  simp [pySplitOnce, List.takeWhile_append_of_pos hall, List.dropWhile_append_of_pos hall]

/-- `strip()` keeps only characters of its argument. -/
theorem mem_of_mem_pyStrip {s : String} {c : Char} (h : c ∈ (pyStrip s).data) : c ∈ s.data :=
  (List.dropWhile_suffix _).subset ((List.rdropWhile_prefix _ _).subset h)

/-- `strip()` twice is `strip()` once. -/
theorem pyStrip_idem (s : String) : pyStrip (pyStrip s) = pyStrip s := by
  refine pyStrip_eq_self (fun c hc => ?_) fun c hc => ?_
  · have hne : (pyStrip s).data ≠ [] := fun h => by simp [h] at hc
    rw [List.head?_eq_head hne, Option.mem_def, Option.some.injEq] at hc
    subst hc
    have hne' : s.data.dropWhile pyIsSpace ≠ [] := fun h => hne (by simp [pyStrip, h])
    show pyIsSpace (((s.data.dropWhile pyIsSpace).rdropWhile pyIsSpace).head hne) = false
    rw [(List.rdropWhile_prefix _ _).head hne]
    exact List.head_dropWhile_not _ _ hne'
  · have hne : (pyStrip s).data ≠ [] := fun h => by simp [h] at hc
    rw [List.getLast?_eq_getLast _ hne, Option.mem_def, Option.some.injEq] at hc
    subst hc
    exact Bool.eq_false_iff.mpr (List.rdropWhile_last_not pyIsSpace _ hne)

/-- No part of `s.split(sep)` holds `sep`. -/
theorem not_mem_of_mem_splitOnP {p : Char → Bool} : ∀ {xs l : List Char},
    l ∈ xs.splitOnP p → ∀ c ∈ l, p c = false
  | [], l, hl => by simp_all [List.splitOnP_nil]
  | x :: xs, l, hl => by
    have ih := @not_mem_of_mem_splitOnP p xs
    rw [List.splitOnP_cons] at hl
    split at hl
    · rcases List.mem_cons.mp hl with rfl | hl
      · simp
      · exact ih hl
    · next hx =>
      obtain ⟨h, t, ht⟩ := List.exists_cons_of_ne_nil (List.splitOnP_ne_nil p xs)
      rw [ht] at hl ih
      rcases List.mem_cons.mp hl with rfl | hl
      · rintro c (_ | ⟨_, hc⟩)
        · simpa using hx
        · exact ih (.head _) c hc
      · exact ih (.tail _ hl)

theorem not_mem_of_mem_pySplit {s x : String} {sep : Char} (h : x ∈ pySplit s sep) :
    sep ∉ x.data := by
  obtain ⟨l, hl, rfl⟩ := List.mem_map.mp h
  exact fun hc => by simpa using not_mem_of_mem_splitOnP hl sep hc

/-- A text that an item of a directive list keeps as it is: it holds no comma, and `strip()`
leaves it alone. -/
def ItemSafe (x : String) : Prop := ',' ∉ x.data ∧ pyStrip x = x

instance (x : String) : Decidable (ItemSafe x) :=
  inferInstanceAs (Decidable (',' ∉ x.data ∧ pyStrip x = x))

theorem itemSafe_pyStrip {s : String} (h : ',' ∉ s.data) : ItemSafe (pyStrip s) :=
  ⟨fun hc => h (mem_of_mem_pyStrip hc), pyStrip_idem s⟩

/-! ## Values and dicts -/

/-- The Python values that a directive holds: `None`, a `bool`, an `int`, a `str`, or a `list` of
`str`. -/
inductive PyValue where
  | none
  | bool (b : Bool)
  | int (i : Int)
  | str (s : String)
  | list (l : List String)
  deriving DecidableEq, Repr

/-- A Python `dict` from `str`: its items in insertion order, each key once. -/
@[ext]
structure PyDict where
  /-- The items, in the order a Python `dict` iterates them. -/
  entries : List (String × PyValue)
  /-- No key occurs twice. -/
  nodup : (entries.map Prod.fst).Nodup

namespace PyDict

instance : DecidableEq PyDict := fun a b =>
  decidable_of_iff (a.entries = b.entries) PyDict.ext_iff.symm

/-- `{}`. -/
def empty : PyDict := ⟨[], List.nodup_nil⟩

/-- The keys, in order. -/
def keys (d : PyDict) : List String := d.entries.map Prod.fst

/-- `d.get(k)`. -/
def get? (d : PyDict) (k : String) : Option PyValue := d.entries.lookup k

/-- `d[k] = v`: a key already present keeps its place and takes the new value; a new key goes
last. -/
def setItem (d : PyDict) (k : String) (v : PyValue) : PyDict :=
  if hk : k ∈ d.keys then
    ⟨d.entries.map fun e => if e.1 = k then (k, v) else e, by
      have hkeys : (d.entries.map fun e => if e.1 = k then (k, v) else e).map Prod.fst =
          d.entries.map Prod.fst := by
        simp only [List.map_map]
        exact List.map_congr_left fun e _ => by by_cases h : e.1 = k <;> simp [h]
      exact hkeys ▸ d.nodup⟩
  else
    ⟨d.entries ++ [(k, v)], by
      simpa [List.nodup_append, keys] using ⟨d.nodup, fun x hx => hk (List.mem_map_of_mem _ hx)⟩⟩

/-- `d.pop(k, None)`, keeping the dict. -/
def pop (d : PyDict) (k : String) : PyDict :=
  ⟨d.entries.filter (·.1 != k), (List.filter_sublist _).map _ |>.nodup d.nodup⟩

/-- `d.update(e)`: the items of `e` set one after the other. -/
def update (d e : PyDict) : PyDict := e.entries.foldl (fun d kv => d.setItem kv.1 kv.2) d

@[simp]
theorem entries_empty : empty.entries = [] := rfl

/-- An item of `d[k] = v` is the new one or an item of `d`. -/
theorem mem_setItem {d : PyDict} {k : String} {v : PyValue} {e : String × PyValue}
    (he : e ∈ (d.setItem k v).entries) : e = (k, v) ∨ e ∈ d.entries := by
  unfold setItem at he
  split at he
  · obtain ⟨e', he', rfl⟩ := List.mem_map.mp he
    by_cases h : e'.1 = k
    · exact .inl (by simp [h])
    · exact .inr (by simpa [h] using he')
  · simpa [or_comm] using he

/-! ### Looking keys up -/

/-- An item that `d.get(k)` finds is an item of `d`. -/
theorem mem_of_get? {d : PyDict} {k : String} {v : PyValue} (h : d.get? k = some v) :
    (k, v) ∈ d.entries := by
  obtain ⟨l₁, l₂, hl, -⟩ := List.lookup_eq_some_iff.mp h
  simp [hl]

/-- `lookup` on a cons, as an `if`. -/
@[simp]
theorem lookup_cons_ite (k k' : String) (v : PyValue) (l : List (String × PyValue)) :
    ((k, v) :: l).lookup k' = if k' = k then some v else l.lookup k' := by
  rw [List.lookup_cons]
  split <;> simp_all

/-- A key that no item has is not found. -/
theorem lookup_eq_none_of_not_mem {l : List (String × PyValue)} {k : String}
    (hk : k ∉ l.map Prod.fst) : l.lookup k = none :=
  List.lookup_eq_none_iff.mpr fun p hp =>
    bne_iff_ne.mpr fun he => hk (by rw [he]; exact List.mem_map_of_mem Prod.fst hp)

/-- Looking up in a list whose items of key `k` take the value `v`. -/
theorem lookup_map_replace (k k' : String) (v : PyValue) : ∀ l : List (String × PyValue),
    (l.map fun e => if e.1 = k then (k, v) else e).lookup k' =
      if k' = k ∧ k ∈ l.map Prod.fst then some v else l.lookup k'
  | [] => by simp
  | (k₀, v₀) :: l => by
    have ih := lookup_map_replace k k' v l
    by_cases h₀ : k₀ = k
    · subst h₀
      by_cases h : k' = k₀ <;> simp [h, ih]
    · by_cases h : k' = k₀
      · simp [h, h₀]
      · simp only [List.map_cons, if_neg h₀, lookup_cons_ite, if_neg h, ih, List.mem_cons,
          Ne.symm h₀, false_or]

/-- Looking a key up after `d[k] = v`. -/
theorem get?_setItem (d : PyDict) (k k' : String) (v : PyValue) :
    (d.setItem k v).get? k' = if k' = k then some v else d.get? k' := by
  unfold setItem get?
  split
  · next hk => by_cases h : k' = k <;> simp_all [lookup_map_replace, keys]
  · next hk =>
    rw [List.lookup_append]
    by_cases h : k' = k
    · subst h
      simp [lookup_eq_none_of_not_mem hk]
    · simp [h]

/-- Looking up in a list without the items of key `k`. -/
theorem lookup_filter_ne (k k' : String) : ∀ l : List (String × PyValue),
    (l.filter (·.1 != k)).lookup k' = if k' = k then none else l.lookup k'
  | [] => by simp
  | (k₀, v₀) :: l => by
    have ih := lookup_filter_ne k k' l
    by_cases h₀ : k₀ = k
    · subst h₀
      simp only [List.filter_cons, bne_self_eq_false, Bool.false_eq_true, if_false, ih,
        lookup_cons_ite]
      split <;> rfl
    · by_cases h : k' = k₀ <;> simp [List.filter_cons, h₀, ih, h]

/-- Looking a key up after `d.pop(k, None)`. -/
theorem get?_pop (d : PyDict) (k k' : String) :
    (d.pop k).get? k' = if k' = k then none else d.get? k' :=
  lookup_filter_ne k k' d.entries

/-- Setting the items of a list with no key twice: each of its keys takes its value there. -/
theorem get?_foldl_setItem (k : String) : ∀ (l : List (String × PyValue)) (d : PyDict),
    (l.map Prod.fst).Nodup →
      (l.foldl (fun d kv => d.setItem kv.1 kv.2) d).get? k = (l.lookup k).or (d.get? k)
  | [], d, _ => by simp
  | (k₀, v₀) :: l, d, hnd => by
    have hnd' := List.nodup_cons.mp hnd
    rw [List.foldl_cons, get?_foldl_setItem k l _ hnd'.2, get?_setItem]
    by_cases h : k = k₀
    · subst h
      simp [lookup_eq_none_of_not_mem hnd'.1]
    · simp [h]

/-- Looking a key up after `d.update(e)`: the value in `e` if it has one, else the one in `d`. -/
theorem get?_update (d e : PyDict) (k : String) :
    (d.update e).get? k = (e.get? k).or (d.get? k) :=
  get?_foldl_setItem k e.entries d e.nodup

end PyDict


end CythonOptions
