import Cython.CythonOptions.Python

/-!
# The command line of `BuildExecutable`

`_parse_args(args)` of `Cython.Build.BuildExecutable` splits a command line at its input file. The
arguments before the input file go to Cython and those after it go to the program. An argument
goes to Cython when it starts with `-`, or when it follows `-X` or `--directive`, whose value it
is. The first other argument is the input file. A command line without one raises
`ValueError('no input file provided')`.

`parseArgs_eq_ok_iff` says what a result is: the command line is the Cython arguments, the input
file and the rest, in order, with every Cython argument passed as one given the argument before
it, and the input file not. So nothing is lost or reordered, and a `-X` never ends the Cython
arguments without its value. `parseArgs_error_iff` says when the error is raised.
-/

namespace CythonBuild

open CythonOptions (pyStartsWith)

/-- Whether `_parse_args` passes `arg`, which follows `lastArg`, to Cython: an option, or the value
of `-X` or `--directive`. -/
def isCythonArg (lastArg : Option String) (arg : String) : Bool :=
  pyStartsWith arg "-" || lastArg == some "-X" || lastArg == some "--directive"

/-- The loop of `_parse_args`: `cyArgs` holds the arguments passed to Cython so far, and
`lastArg` the argument before `args`. -/
def parseArgsLoop (cyArgs : List String) (lastArg : Option String) :
    List String → Except String (String × List String × List String)
  | [] => throw "no input file provided"
  | arg :: args =>
    if isCythonArg lastArg arg then parseArgsLoop (cyArgs ++ [arg]) (some arg) args
    else pure (arg, cyArgs, args)

/-- `_parse_args(args)`: the input file, the arguments for Cython, and the arguments for the
program. The error is the message of the `ValueError`. -/
def parseArgs (args : List String) : Except String (String × List String × List String) :=
  parseArgsLoop [] none args

/-- Every argument of `args`, after `lastArg`, goes to Cython. -/
def allCythonArgs : Option String → List String → Bool
  | _, [] => true
  | lastArg, arg :: args => isCythonArg lastArg arg && allCythonArgs (some arg) args

/-! ## The loop -/

/-- A run of Cython arguments, then an argument that is not one: the loop stops there. -/
theorem parseArgsLoop_append (x : String) (rest : List String) :
    ∀ (cyArgs l : List String) (lastArg : Option String), allCythonArgs lastArg l = true →
      isCythonArg (l.getLast?.or lastArg) x = false →
        parseArgsLoop cyArgs lastArg (l ++ x :: rest) = .ok (x, cyArgs ++ l, rest)
  | cyArgs, [], lastArg, _, hx => by
    have hx : isCythonArg lastArg x = false := by simpa using hx
    rw [List.nil_append, parseArgsLoop, if_neg (by simp [hx]), List.append_nil]
    rfl
  | cyArgs, arg :: l, lastArg, hall, hx => by
    simp only [allCythonArgs, Bool.and_eq_true] at hall
    have hx' : isCythonArg (l.getLast?.or (some arg)) x = false := by
      cases l <;> simpa [List.getLast?_cons] using hx
    rw [List.cons_append, parseArgsLoop, if_pos hall.1,
      parseArgsLoop_append x rest _ l _ hall.2 hx']
    simp

/-- What the loop returns is a run of Cython arguments, then an argument that is not one. -/
theorem parseArgsLoop_ok {inputFile : String} {cy rest : List String} :
    ∀ (args cyArgs : List String) (lastArg : Option String),
      parseArgsLoop cyArgs lastArg args = .ok (inputFile, cy, rest) →
        ∃ l, cy = cyArgs ++ l ∧ args = l ++ inputFile :: rest ∧ allCythonArgs lastArg l = true ∧
          isCythonArg (l.getLast?.or lastArg) inputFile = false
  | [], _, _, h => by cases h
  | arg :: args, cyArgs, lastArg, h => by
    unfold parseArgsLoop at h
    split at h
    · next harg =>
      obtain ⟨l, hcy, hargs, hall, hx⟩ := parseArgsLoop_ok args _ _ h
      refine ⟨arg :: l, by simp [hcy], by simp [hargs], by simp [allCythonArgs, harg, hall], ?_⟩
      cases l <;> simpa [List.getLast?_cons] using hx
    · next harg =>
      cases h
      exact ⟨[], by simp, rfl, rfl, by simpa using harg⟩

/-- The loop raises exactly when every argument goes to Cython, and always with the same
message. -/
theorem parseArgsLoop_error :
    ∀ (args cyArgs : List String) (lastArg : Option String) (e : String),
      parseArgsLoop cyArgs lastArg args = .error e ↔
        allCythonArgs lastArg args = true ∧ e = "no input file provided"
  | [], _, _, e => by
    simp only [parseArgsLoop, allCythonArgs, true_and]
    exact ⟨fun h => by cases h; rfl, fun h => h ▸ rfl⟩
  | arg :: args, cyArgs, lastArg, e => by
    unfold parseArgsLoop
    split
    · next harg => simp [allCythonArgs, harg, parseArgsLoop_error args]
    · next harg =>
      simp only [allCythonArgs, harg, Bool.false_and, Bool.false_eq_true, false_and, iff_false]
      exact fun h => by cases h

/-! ## `_parse_args` -/

/-- `_parse_args` returns the split of the command line at its first argument that does not go to
Cython: the command line is the Cython arguments, the input file and the rest, in order; each
Cython argument goes to Cython after the one before it; the input file does not. In particular
the Cython arguments never end with `-X` or `--directive`. -/
theorem parseArgs_eq_ok_iff (args : List String) (inputFile : String) (cyArgs rest : List String) :
    parseArgs args = .ok (inputFile, cyArgs, rest) ↔
      args = cyArgs ++ inputFile :: rest ∧ allCythonArgs none cyArgs = true ∧
        isCythonArg cyArgs.getLast? inputFile = false := by
  constructor
  · intro h
    obtain ⟨l, rfl, hargs, hall, hx⟩ := parseArgsLoop_ok args [] none h
    simp only [List.nil_append, Option.or_none] at hx ⊢
    exact ⟨hargs, hall, hx⟩
  · rintro ⟨rfl, hall, hx⟩
    simpa using parseArgsLoop_append inputFile rest [] cyArgs none hall (by simpa using hx)

/-- `_parse_args` raises `ValueError('no input file provided')` exactly when every argument goes
to Cython, and raises nothing else. -/
theorem parseArgs_error_iff (args : List String) (e : String) :
    parseArgs args = .error e ↔ allCythonArgs none args = true ∧ e = "no input file provided" :=
  parseArgsLoop_error args [] none e

end CythonBuild
