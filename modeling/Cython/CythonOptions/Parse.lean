import Cython.CythonOptions.Directives

/-!
# `parse_directive_list` and the functions it calls

`parse_directive_list(s, relaxed_bool, ignore_unknown, current_settings)` splits `s` at every
comma, strips each item, skips the empty ones, and splits the others at their first `=` into a
name and a value. A name of `_directive_defaults` is set to its value as `parse_directive_value`
reads it, except for the directives that hold a list, which collect their values; a name
`<prefix>.all` that is not itself a directive sets every directive starting with `<prefix>.`; any
other name is an error unless `ignore_unknown` is set. The dict it fills is `current_settings`
itself when the caller gives one, so an exception leaves that dict as the loop had filled it.

The loop runs in `EStateM OptionError PyDict`: the state is the dict, and an exception ends the
run and keeps the dict. `parse_directive_value` does not touch the dict and returns `Except`.
`normalise_encoding_name` asks Python's codec registry, which is a parameter (`Codecs`).
-/

namespace CythonOptions

/-- The exceptions that parsing a directive list raises. -/
inductive OptionError where
  /-- `ValueError`, with its message. -/
  | valueError (msg : String)
  /-- `TypeError` from calling the class `callee` with a name and a value. -/
  | typeError (callee : String)
  /-- `AssertionError` from `assert False`. -/
  | assertionError
  /-- `AttributeError` for the attribute `attr` that a value lacks. -/
  | attributeError (attr : String)
  /-- `LookupError` from `codecs.getdecoder` of a name that no codec has. -/
  | lookupError (encoding : String)
  deriving DecidableEq, Repr

/-- The codec registry that `codecs.getdecoder` consults. It belongs to Python, not to the
sources; a decoder is known by its identity. -/
structure Codecs where
  /-- `codecs.getdecoder(name)`, or `None` where it raises `LookupError`. -/
  getdecoder : String → Option Nat

/-! ## Running a program of `EStateM` -/

section

variable {ε σ α β : Type}

@[simp]
theorem estate_bind_apply (x : EStateM ε σ α) (f : α → EStateM ε σ β) (s : σ) :
    (x >>= f) s = match x s with
      | .ok a s' => f a s'
      | .error e s' => .error e s' := rfl

@[simp]
theorem estate_pure_apply (a : α) (s : σ) : (pure a : EStateM ε σ α) s = .ok a s := rfl

@[simp]
theorem estate_throw_apply (e : ε) (s : σ) : (throw e : EStateM ε σ α) s = .error e s := rfl

@[simp]
theorem estate_get_apply (s : σ) : (get : EStateM ε σ σ) s = .ok s s := rfl

@[simp]
theorem estate_set_apply (s s' : σ) : (set s' : EStateM ε σ PUnit) s = .ok ⟨⟩ s' := rfl

@[simp]
theorem estate_modify_apply (f : σ → σ) (s : σ) :
    (modify f : EStateM ε σ PUnit) s = .ok ⟨⟩ (f s) := rfl

@[simp]
theorem estate_liftExcept_apply (x : Except ε α) (s : σ) :
    (liftExcept x : EStateM ε σ α) s = match x with
      | .ok a => .ok a s
      | .error e => .error e s := by
  cases x <;> rfl

end

/-! ## The values of one directive -/

/-- `'s'`, as `%s` between quotes writes a `str`. -/
def pyQuote (s : String) : String := ⟨Char.ofNat 39 :: s.data ++ [Char.ofNat 39]⟩

/-- `"s"`, as `"%s"` writes a `str`. -/
def pyDQuote (s : String) : String := ⟨Char.ofNat 34 :: s.data ++ [Char.ofNat 34]⟩

/-- `str(args)` of a tuple of `str` without quotes or backslashes, which the tables hold:
`('a', 'b')`, and `('a',)` for one. -/
def pyTupleStr (args : List String) : String :=
  match args with
  | [a] => "(" ++ pyQuote a ++ ",)"
  | _ => "(" ++ ", ".intercalate (args.map pyQuote) ++ ")"

/-- The validator that `one_of(*args, map=map)` returns, called with a directive's name and a
value: the value, mapped through `map` first, must be one of `args`. -/
def oneOf (args : List String) (map : List (String × String)) (name value : String) :
    Except OptionError PyValue :=
  let value := (map.lookup value).getD value
  if value ∈ args then pure (.str value)
  else throw (.valueError (name ++ " directive must be one of " ++ pyTupleStr args ++ ", got " ++
    pyQuote value))

/-- `_normalise_common_encoding_name`, the `get` of a dict of five names. -/
def normaliseCommonEncodingName (encoding : String) : Option String :=
  [("utf8", "utf8"), ("utf-8", "utf8"), ("default", "utf8"), ("ascii", "ascii"),
    ("us-ascii", "ascii")].lookup encoding

/-- `normalise_encoding_name(option_name, encoding)`: the empty name stays empty, a common name
is normalised, and a name whose decoder is that of `ascii` or `utf8` becomes that name. -/
def normaliseEncodingName (codecs : Codecs) (_optionName encoding : String) :
    Except OptionError String :=
  if encoding = "" then pure ""
  else match normaliseCommonEncodingName (pyLower encoding) with
    | some encodingName => pure encodingName
    | none => match codecs.getdecoder encoding with
      | none => pure encoding
      | some decoder => match codecs.getdecoder "ascii" with
        | none => throw (.lookupError "ascii")
        | some ascii => if ascii = decoder then pure "ascii"
          else match codecs.getdecoder "utf8" with
            | none => throw (.lookupError "utf8")
            | some utf8 => if utf8 = decoder then pure "utf8" else pure encoding

/-- The code points of the digit zero of every run of ten decimal digits (Unicode category Nd),
as the Unicode database of Python 3.11 (Unicode 14.0) has them. -/
def decimalZeros : List Nat :=
  [0x30, 0x660, 0x6F0, 0x7C0, 0x966, 0x9E6, 0xA66, 0xAE6, 0xB66, 0xBE6, 0xC66, 0xCE6, 0xD66, 0xDE6,
    0xE50, 0xED0, 0xF20, 0x1040, 0x1090, 0x17E0, 0x1810, 0x1946, 0x19D0, 0x1A80, 0x1A90, 0x1B50,
    0x1BB0, 0x1C40, 0x1C50, 0xA620, 0xA8D0, 0xA900, 0xA9D0, 0xA9F0, 0xAA50, 0xABF0, 0xFF10, 0x104A0,
    0x10D30, 0x11066, 0x110F0, 0x11136, 0x111D0, 0x112F0, 0x11450, 0x114D0, 0x11650, 0x116C0,
    0x11730, 0x118E0, 0x11950, 0x11C50, 0x11D50, 0x11DA0, 0x16A60, 0x16AC0, 0x16B50, 0x1D7CE,
    0x1D7D8, 0x1D7E2, 0x1D7EC, 0x1D7F6, 0x1E140, 0x1E2F0, 0x1E950, 0x1FBF0]

/-- `unicodedata.decimal(c)`, with which `int()` reads a digit of any script: the place of `c` in
its run of ten decimal digits. -/
def pyDecimal (c : Char) : Option Nat :=
  (decimalZeros.find? fun z => z ≤ c.toNat ∧ c.toNat < z + 10).map (c.toNat - ·)

/-- The value that `int()` reads from decimal digits with single underscores between them. -/
def pyIntDigits (ds : List Char) : Option Nat :=
  if ds ≠ [] ∧ ds.head? ≠ some '_' ∧ ds.getLast? ≠ some '_' ∧
      (∀ c ∈ ds, (pyDecimal c).isSome ∨ c = '_') ∧
      ∀ p ∈ ds.zip ds.tail, ¬(p.1 = '_' ∧ p.2 = '_') then
    some ((ds.filterMap pyDecimal).foldl (fun n d => 10 * n + d) 0)
  else none

/-- `int(s)` of a `str`: whitespace around, an optional sign, and decimal digits of any script
with single underscores between them. (The limit of Python 3.11 on the number of digits, which
`sys.set_int_max_str_digits` sets, is left out.) -/
def pyInt (s : String) : Option Int :=
  match (pyStrip s).data with
  | '-' :: ds => (pyIntDigits ds).map fun n => -(n : Int)
  | '+' :: ds => (pyIntDigits ds).map Int.ofNat
  | ds => (pyIntDigits ds).map Int.ofNat

example : pyInt " -1_\u0663 " = some (-13) := by decide

/-- `parse_directive_value(name, value, relaxed_bool)` of a `str` value: `None` for a name that
`directive_types` lacks or maps to `None`, and otherwise the value as the directive's type reads
it. A class other than `bool`, `int` and `str` is called with the name and the value, which raises
`TypeError`; `DEFER_ANALYSIS_OF_ARGUMENTS` is not callable and reaches `assert False`. -/
def parseDirectiveValue (codecs : Codecs) (name value : String) (relaxedBool : Bool) :
    Except OptionError PyValue :=
  match directiveType name with
  | none => pure .none
  | some .bool =>
    if value = "True" then pure (.bool true)
    else if value = "False" then pure (.bool false)
    else if relaxedBool && (pyLower value == "true" || pyLower value == "yes") then
      pure (.bool true)
    else if relaxedBool && (pyLower value == "false" || pyLower value == "no") then
      pure (.bool false)
    else throw (.valueError (name ++ " directive must be set to True or False, got " ++
      pyQuote value))
  | some .int => match pyInt value with
    | some i => pure (.int i)
    | none => throw (.valueError (name ++ " directive must be set to an integer, got " ++
      pyQuote value))
  | some .str => pure (.str value)
  | some (.oneOf args map) => oneOf args map name value
  | some .normaliseEncodingName => PyValue.str <$> normaliseEncodingName codecs name value
  | some .deferAnalysisOfArguments => throw .assertionError
  | some .list => throw (.typeError "list")
  | some .dict => throw (.typeError "dict")
  | some .type => throw (.typeError "type")
  | some .noneType => throw (.typeError "NoneType")

/-! ## The loop of `parse_directive_list` -/

/-- The inner loop for a name `<prefix>.all`, over the directives of `_directive_defaults` in
order: each one that starts with `pfx` is set to `value` as `parse_directive_value` reads it for
that directive. It returns whether one did (`found`). -/
def setAllDirectives (codecs : Codecs) (relaxedBool : Bool) (pfx value : String) :
    List String → EStateM OptionError PyDict Bool
  | [] => pure false
  | directive :: directives => do
    let found ← if pyStartsWith directive pfx then do
        let parsedValue ← liftExcept (parseDirectiveValue codecs directive value relaxedBool)
        modify fun result => result.setItem directive parsedValue
        pure true
      else pure false
    let foundLater ← setAllDirectives codecs relaxedBool pfx value directives
    pure (found || foundLater)

/-- The loop body of `parse_directive_list` after an item is split into its name and value. -/
def assignDirective (codecs : Codecs) (relaxedBool ignoreUnknown : Bool) (name value : String) :
    EStateM OptionError PyDict Unit := do
  if name ∉ directiveDefaults.keys then
    let found ← if pyEndsWith name ".all" then
        setAllDirectives codecs relaxedBool (pyDropLast name 3) value directiveDefaults.keys
      else pure false
    if !found && !ignoreUnknown then
      throw (.valueError ("Unknown option: " ++ pyDQuote name))
  else if directiveType name = some .list then
    let result ← get
    match result.get? name with
    | some (.list l) => set (result.setItem name (.list (l ++ [value])))
    | some _ => throw (.attributeError "append")
    | none => set (result.setItem name (.list [value]))
  else
    let parsedValue ← liftExcept (parseDirectiveValue codecs name value relaxedBool)
    modify fun result => result.setItem name parsedValue

/-- One turn of the loop of `parse_directive_list`, on one item of `s.split(',')`. -/
def parseDirectiveItem (codecs : Codecs) (relaxedBool ignoreUnknown : Bool) (item : String) :
    EStateM OptionError PyDict Unit :=
  let item := pyStrip item
  if item = "" then pure ()
  else if '=' ∉ item.data then
    throw (.valueError ("Expected \"=\" in option " ++ pyDQuote item))
  else
    let parts := pySplitOnce (pyStrip item) '='
    assignDirective codecs relaxedBool ignoreUnknown (pyStrip parts.1) (pyStrip parts.2)

/-- The loop of `parse_directive_list` over the items. -/
def parseDirectiveItems (codecs : Codecs) (relaxedBool ignoreUnknown : Bool) :
    List String → EStateM OptionError PyDict Unit
  | [] => pure ()
  | item :: items => do
    parseDirectiveItem codecs relaxedBool ignoreUnknown item
    parseDirectiveItems codecs relaxedBool ignoreUnknown items

/-- `parse_directive_list(s, relaxed_bool, ignore_unknown, current_settings)`. The dict it fills
is `current_settings` when one is given, and a new one otherwise; the result carries the dict as
the loop left it, also when an exception ended the loop. -/
def parseDirectiveList (codecs : Codecs) (s : String) (relaxedBool ignoreUnknown : Bool)
    (currentSettings : Option PyDict) : EStateM.Result OptionError PyDict PyDict :=
  (do parseDirectiveItems codecs relaxedBool ignoreUnknown (pySplit s ','); get)
    (currentSettings.getD PyDict.empty)

/-- The loop over the items of two lists one after the other is the loop over the first and then
over the second. -/
theorem parseDirectiveItems_append (codecs : Codecs) (relaxedBool ignoreUnknown : Bool)
    (items items' : List String) :
    parseDirectiveItems codecs relaxedBool ignoreUnknown (items ++ items') =
      (parseDirectiveItems codecs relaxedBool ignoreUnknown items >>= fun _ =>
        parseDirectiveItems codecs relaxedBool ignoreUnknown items') := by
  induction items with
  | nil => simp [parseDirectiveItems]
  | cons item items ih => simp [parseDirectiveItems, ih]

/-! ## Inherited directives -/

/-- The directives that `copy_inherited_directives` does not copy downwards. -/
def nonInheritedDirectives : List String :=
  ["test_assert_path_exists", "test_fail_if_path_exists", "test_assert_c_code_has",
    "test_fail_if_c_code_has", "critical_section"]

/-- `copy_inherited_directives(outer_directives, **new_directives)`: a copy of the outer
directives without the ones not inherited, updated with the new ones. -/
def copyInheritedDirectives (outerDirectives newDirectives : PyDict) : PyDict :=
  (nonInheritedDirectives.foldl PyDict.pop outerDirectives).update newDirectives

/-- The keyword arguments of `copy_for_internal`. -/
def internalDirectives : PyDict :=
  ⟨[("binding", .bool false), ("profile", .bool false), ("linetrace", .bool false)], by decide⟩

/-- `copy_for_internal(outer_directives)`. -/
def copyForInternal (outerDirectives : PyDict) : PyDict :=
  copyInheritedDirectives outerDirectives internalDirectives

end CythonOptions
