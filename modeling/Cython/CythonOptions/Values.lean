import Mathlib.Data.Nat.Digits
import Cython.CythonOptions.Parse

/-!
# Directive values written back

A directive's value is written back into a directive list as `str(value)`. For every value that
`parse_directive_value` returns, under either `relaxed_bool`, reading that text again gives the
same value (`parseDirectiveValue_pyStr`):

* a `bool` is written `True` or `False`, which the strict reading already accepts;
* an `int` is written in decimal, which `int()` reads back (`pyInt_repr`);
* a `one_of` value is a name its map leaves alone, since no map of the tables sends a value to a
  name it maps again (`directiveType_oneOfMap`);
* an encoding name is normalised already, since `normalise_encoding_name` is idempotent for every
  codec registry (`normaliseEncodingName_idem`).
-/

namespace CythonOptions

/-- `str(value)` of a value the parser stores. A list is written as Python writes a list of `str`
without quotes or backslashes. -/
def pyStr : PyValue → String
  | .none => "None"
  | .bool true => "True"
  | .bool false => "False"
  | .int i => i.repr
  | .str s => s
  | .list l => "[" ++ ", ".intercalate (l.map pyQuote) ++ "]"

/-! ## Decimal digits -/

/-- The ten characters of `Nat.digitChar` are decimal digits, which read back as their value. -/
theorem digitChar_decimal : ∀ d < 10,
    (Nat.digitChar d).isDigit = true ∧ (Nat.digitChar d).toNat - '0'.toNat = d := by
  decide

/-- A decimal digit is not whitespace. -/
theorem pyIsSpace_of_isDigit {c : Char} (h : c.isDigit = true) : pyIsSpace c = false := by
  simp only [Char.isDigit, Bool.and_eq_true, decide_eq_true_eq] at h
  have h₁ : 48 ≤ c.toNat := h.1
  have h₂ : c.toNat ≤ 57 := h.2
  simp only [pyIsSpace]
  generalize c.toNat = n at *
  simp only [Bool.or_eq_false_iff, Bool.and_eq_false_iff, decide_eq_false_iff_not,
    beq_eq_false_iff_ne, ne_eq]
  omega

/-- `Nat.toDigitsCore` adds decimal digits in front of the characters it is given. -/
theorem toDigitsCore_isDigit : ∀ (fuel n : Nat) (ds : List Char),
    ∀ c ∈ Nat.toDigitsCore 10 fuel n ds, c.isDigit = true ∨ c ∈ ds
  | 0, _, _ => fun _ hc => .inr hc
  | fuel + 1, n, ds => fun c hc => by
    have hd := (digitChar_decimal (n % 10) (Nat.mod_lt _ (by omega))).1
    simp only [Nat.toDigitsCore] at hc
    split at hc
    · rcases List.mem_cons.mp hc with rfl | hc
      · exact .inl hd
      · exact .inr hc
    · rcases toDigitsCore_isDigit fuel _ _ c hc with h | hc
      · exact .inl h
      · rcases List.mem_cons.mp hc with rfl | hc
        · exact .inl hd
        · exact .inr hc

/-- Read from the left, the digits of `Nat.toDigitsCore` give the number. -/
theorem foldl_toDigitsCore : ∀ (fuel n : Nat) (ds : List Char), n < fuel →
    (Nat.toDigitsCore 10 fuel n ds).foldl (fun n c => 10 * n + (c.toNat - '0'.toNat)) 0 =
      ds.foldl (fun n c => 10 * n + (c.toNat - '0'.toNat)) n
  | 0, _, _, h => absurd h (Nat.not_lt_zero _)
  | fuel + 1, n, ds, h => by
    have hd := (digitChar_decimal (n % 10) (Nat.mod_lt _ (by omega))).2
    simp only [Nat.toDigitsCore]
    split
    · simp only [List.foldl_cons, hd]
      congr 1
      omega
    · rw [foldl_toDigitsCore fuel _ _ (by omega)]
      simp only [List.foldl_cons, hd]
      congr 1
      omega

theorem toDigitsCore_ne_nil : ∀ (fuel n : Nat) (c : Char) (ds : List Char),
    Nat.toDigitsCore 10 fuel n (c :: ds) ≠ []
  | 0, _, _, _ => List.cons_ne_nil _ _
  | fuel + 1, n, c, ds => by
    simp only [Nat.toDigitsCore]
    split
    · exact List.cons_ne_nil _ _
    · exact toDigitsCore_ne_nil fuel _ _ _

theorem toDigits_ne_nil (n : Nat) : Nat.toDigits 10 n ≠ [] := by
  simp only [Nat.toDigits, Nat.toDigitsCore]
  split
  · exact List.cons_ne_nil _ _
  · exact toDigitsCore_ne_nil _ _ _ _

/-- An ASCII digit is a decimal digit, read from `0`. -/
theorem pyDecimal_of_isDigit {c : Char} (h : c.isDigit = true) :
    pyDecimal c = some (c.toNat - '0'.toNat) := by
  simp only [Char.isDigit, Bool.and_eq_true, decide_eq_true_eq] at h
  have h₁ : 48 ≤ c.toNat := h.1
  have h₂ : c.toNat ≤ 57 := h.2
  unfold pyDecimal decimalZeros
  rw [List.find?_cons_of_pos _ (by simp only [decide_eq_true_eq]; omega)]
  rfl

/-- `int()` reads the decimal digits of a number as the number. -/
theorem pyIntDigits_toDigits (n : Nat) : pyIntDigits (Nat.toDigits 10 n) = some n := by
  have hall : ∀ c ∈ Nat.toDigits 10 n, c.isDigit = true := fun c hc =>
    (toDigitsCore_isDigit _ _ _ c hc).resolve_right (List.not_mem_nil c)
  have hunder : '_' ∉ Nat.toDigits 10 n := fun h => by simpa using hall _ h
  have hdec : (Nat.toDigits 10 n).filterMap pyDecimal =
      (Nat.toDigits 10 n).map fun c => c.toNat - '0'.toNat := by
    rw [← List.filterMap_eq_map]
    exact List.filterMap_congr fun c hc => pyDecimal_of_isDigit (hall c hc)
  unfold pyIntDigits
  rw [if_pos ⟨toDigits_ne_nil n, fun h => hunder (List.mem_of_mem_head? h),
    fun h => hunder (List.mem_of_getLast?_eq_some h),
    fun c hc => .inl (by rw [pyDecimal_of_isDigit (hall c hc)]; rfl),
    fun p hp ⟨h, _⟩ => hunder (h ▸ (List.of_mem_zip hp).1)⟩, hdec, List.foldl_map]
  exact congrArg some (foldl_toDigitsCore _ _ _ (Nat.lt_succ_self n))

/-- `str(i)` is decimal digits after an optional `-`. -/
theorem mem_repr {i : Int} {c : Char} (hc : c ∈ i.repr.data) : c.isDigit = true ∨ c = '-' := by
  have hdigits : ∀ n : Nat, ∀ c ∈ (Nat.repr n).data, c.isDigit = true := fun n c hc =>
    (toDigitsCore_isDigit _ _ _ c hc).resolve_right (List.not_mem_nil c)
  cases i with
  | ofNat n => exact .inl (hdigits n c hc)
  | negSucc n =>
    rcases List.mem_cons.mp hc with rfl | hc
    · exact .inr rfl
    · exact .inl (hdigits _ c hc)

/-- `str(i)` has no whitespace at either end. -/
theorem pyStrip_repr (i : Int) : pyStrip i.repr = i.repr := by
  have hspace : ∀ c ∈ i.repr.data, pyIsSpace c = false := fun c hc =>
    (mem_repr hc).elim pyIsSpace_of_isDigit fun h => h ▸ rfl
  exact pyStrip_eq_self (fun c hc => hspace c (List.mem_of_mem_head? hc))
    fun c hc => hspace c (List.mem_of_getLast?_eq_some hc)

/-- `int(str(i)) == i`. -/
theorem pyInt_repr (i : Int) : pyInt i.repr = some i := by
  rw [pyInt, pyStrip_repr]
  cases i with
  | ofNat n =>
    have hdigits : ∀ c ∈ (Nat.repr n).data, c.isDigit = true := fun c hc =>
      (toDigitsCore_isDigit _ _ _ c hc).resolve_right (List.not_mem_nil c)
    simp only [Int.repr]
    split
    · next h => exact absurd (hdigits '-' (h ▸ List.mem_cons_self _ _)) (by decide)
    · next h => exact absurd (hdigits '+' (h ▸ List.mem_cons_self _ _)) (by decide)
    · show (pyIntDigits (Nat.toDigits 10 n)).map Int.ofNat = _
      rw [pyIntDigits_toDigits]
      rfl
  | negSucc n =>
    have hdata : ("-" ++ Nat.repr (n + 1)).data = '-' :: Nat.toDigits 10 (n + 1) := rfl
    simp only [Int.repr, hdata, pyIntDigits_toDigits]
    rfl

/-! ## Validators that leave their results alone -/

/-- `_normalise_common_encoding_name` gives `utf8` or `ascii`. -/
theorem normaliseCommonEncodingName_eq {encoding name : String}
    (h : normaliseCommonEncodingName encoding = some name) : name = "utf8" ∨ name = "ascii" := by
  obtain ⟨l₁, l₂, hl, -⟩ := List.lookup_eq_some_iff.mp h
  have hmem : (encoding, name) ∈ [("utf8", "utf8"), ("utf-8", "utf8"), ("default", "utf8"),
      ("ascii", "ascii"), ("us-ascii", "ascii")] := by rw [hl]; simp
  simp only [List.mem_cons, Prod.mk.injEq, List.mem_nil_iff, or_false] at hmem
  rcases hmem with ⟨-, rfl⟩ | ⟨-, rfl⟩ | ⟨-, rfl⟩ | ⟨-, rfl⟩ | ⟨-, rfl⟩ <;> simp

/-- `normalise_encoding_name` is idempotent: its result is either `utf8` or `ascii`, which it
keeps, or the name it was given, on which it takes the same path again. -/
theorem normaliseEncodingName_idem {codecs : Codecs} {optionName encoding name : String}
    (h : normaliseEncodingName codecs optionName encoding = .ok name) (optionName' : String) :
    normaliseEncodingName codecs optionName' name = .ok name := by
  have h₀ : normaliseEncodingName codecs optionName' encoding = .ok name := h
  unfold normaliseEncodingName at h
  repeat' split at h
  all_goals cases h
  all_goals first
    | rfl
    | exact h₀
    | rcases normaliseCommonEncodingName_eq ‹_› with rfl | rfl <;> rfl

/-- A map that sends no value to a name it maps again leaves what it returns alone. -/
theorem lookup_getD_idem {map : List (String × String)}
    (hmap : ∀ p ∈ map, map.lookup p.2 = none) (value : String) :
    (map.lookup ((map.lookup value).getD value)).getD ((map.lookup value).getD value) =
      (map.lookup value).getD value := by
  cases hv : map.lookup value with
  | none => simp [hv]
  | some w =>
    obtain ⟨l₁, l₂, hl, -⟩ := List.lookup_eq_some_iff.mp hv
    simp [hmap (value, w) (by simp [hl])]

/-! ## Texts that an item keeps -/

/-- `normalise_encoding_name` returns the name it was given, the empty name, `utf8` or
`ascii`. -/
theorem normaliseEncodingName_cases {codecs : Codecs} {optionName encoding name : String}
    (h : normaliseEncodingName codecs optionName encoding = .ok name) :
    name = encoding ∨ name = "" ∨ name = "utf8" ∨ name = "ascii" := by
  unfold normaliseEncodingName at h
  repeat' split at h
  all_goals cases h
  all_goals first
    | exact .inl rfl
    | exact .inr (.inl rfl)
    | exact .inr (.inr (.inl rfl))
    | exact .inr (.inr (.inr rfl))
    | exact .inr (.inr (normaliseCommonEncodingName_eq ‹_›))

/-- A value read from a text that an item keeps is written back as such a text. -/
theorem parseDirectiveValue_itemSafe {codecs : Codecs} {name value : String}
    {relaxedBool : Bool} {v : PyValue} (hvalue : ItemSafe value)
    (h : parseDirectiveValue codecs name value relaxedBool = .ok v) : ItemSafe (pyStr v) := by
  unfold parseDirectiveValue at h
  split at h <;> rename_i htype
  case h_3 =>
    split at h <;> cases h
    exact ⟨fun hc => by simpa using mem_repr hc, pyStrip_repr _⟩
  case h_4 => cases h; exact hvalue
  case h_5 args map =>
    unfold oneOf at h
    simp only at h
    split at h <;> cases h
    cases hv : map.lookup value with
    | none => simpa [pyStr, hv] using hvalue
    | some w =>
      obtain ⟨l₁, l₂, hl, -⟩ := List.lookup_eq_some_iff.mp hv
      simpa [pyStr, hv] using
        (directiveType_oneOfMap htype (value, w) (by simp [DirectiveType.oneOfMap, hl])).2
  case h_6 =>
    cases hn : normaliseEncodingName codecs name value <;> rw [hn] at h <;> cases h
    rcases normaliseEncodingName_cases hn with rfl | rfl | rfl | rfl
    · exact hvalue
    all_goals decide
  all_goals
    repeat' split at h
    all_goals cases h <;> decide

/-! ## The round trip -/

/-- A value that `parse_directive_value` returns, written back with `str()`, is read as the same
value, whatever `relaxed_bool`. -/
theorem parseDirectiveValue_pyStr {codecs : Codecs} {name value : String} {relaxedBool : Bool}
    {v : PyValue} (h : parseDirectiveValue codecs name value relaxedBool = .ok v)
    (relaxedBool' : Bool) : parseDirectiveValue codecs name (pyStr v) relaxedBool' = .ok v := by
  unfold parseDirectiveValue at h ⊢
  split at h <;> rename_i htype
  case h_1 => cases h; rfl
  case h_2 =>
    have hfalse : pyStr (.bool false) ≠ "True" := by decide
    repeat' split at h
    all_goals cases h
    all_goals first | exact if_pos rfl | exact (if_neg hfalse).trans (if_pos rfl)
  case h_3 =>
    split at h <;> cases h
    simp only [pyStr, pyInt_repr]
    rfl
  case h_4 => cases h; rfl
  case h_5 args map =>
    have hmap : ∀ p ∈ map, map.lookup p.2 = none := fun p hp => (directiveType_oneOfMap htype p hp).1
    unfold oneOf at h ⊢
    simp only at h ⊢
    split at h <;> cases h
    simp only [pyStr, lookup_getD_idem hmap]
    exact if_pos ‹_›
  case h_6 =>
    cases hn : normaliseEncodingName codecs name value <;> rw [hn] at h <;> cases h
    simp only [pyStr, normaliseEncodingName_idem hn name]
    rfl
  all_goals cases h

-- `c_string_type=unicode` is read as `str`, which is read back as `str`.
example : parseDirectiveValue ⟨fun _ => none⟩ "c_string_type" (pyStr (.str "str")) true =
    .ok (.str "str") :=
  parseDirectiveValue_pyStr
    (show parseDirectiveValue ⟨fun _ => none⟩ "c_string_type" "unicode" false = .ok (.str "str")
      by rfl) true

end CythonOptions
