import Mathlib.Data.Finset.Card

/-!
# What the recursion guards read

`jedi/evaluate/recursion.py` guards two entry points of the evaluator. The statement guard reads
of a statement its module (`stmt.get_parent_until()`) and its position (`stmt.start_pos`), and the
execution guard reads of an execution its base (`execution.base`), whether that base is an
`iterable.Array` or an `iterable.Generator`, and its module. This file gives those objects the
fields that the guards read and nothing else, together with the four budgets of `jedi.settings`,
which are not part of the sources and are therefore a parameter of every result about the
execution guard.

Python objects are compared by `==`; every object here carries an identity (`ident`), so that two
statements at one place in one module, which the evaluator creates when it copies a statement
into another context, are still two statements.

`WellBracketed` describes the calls that the spec asks of a caller: each push matched by one pop,
in LIFO order.
-/

namespace JediRecursion

/-- A source position `(line, column)`, as `start_pos` holds it. -/
abbrev Pos := Nat × Nat

/-- A module, as `get_parent_until()` returns it: `compiled.builtin`, or another module, told apart
by its identity. -/
inductive Module where
  /-- `compiled.builtin`, the module of the builtins. -/
  | builtin
  /-- Any other module. -/
  | other (ident : Nat)
  deriving DecidableEq, Repr

/-- A statement, with what the statement guard reads of it. -/
structure Stmt where
  /-- The object's identity. -/
  ident : Nat
  /-- `stmt.get_parent_until()`: the module that holds the statement. -/
  getParentUntil : Module
  /-- `stmt.start_pos`. -/
  startPos : Pos
  deriving DecidableEq, Repr

/-- The kinds of base that `push_execution` tells apart with `isinstance`. -/
inductive BaseKind where
  /-- An `iterable.Array`. -/
  | array
  /-- An `iterable.Generator`. -/
  | generator
  /-- Anything else: a function, a class, an instance. -/
  | other
  deriving DecidableEq, Repr

/-- The base of an execution: the callable that it executes. -/
structure Base where
  /-- The object's identity. -/
  ident : Nat
  /-- What `isinstance` tells of it. -/
  kind : BaseKind
  deriving DecidableEq, Repr

/-- An execution, with what the execution guard reads of it. -/
structure Execution where
  /-- `execution.base`. -/
  base : Base
  /-- `execution.get_parent_until()`: the module of the execution. -/
  getParentUntil : Module
  deriving DecidableEq, Repr

/-- The budgets of `jedi.settings` that `push_execution` compares with. They are plain Python
integers: nothing bounds them below. -/
structure Settings where
  /-- `settings.max_executions`. -/
  maxExecutions : Int
  /-- `settings.max_executions_without_builtins`. -/
  maxExecutionsWithoutBuiltins : Int
  /-- `settings.max_function_recursion_level`. -/
  maxFunctionRecursionLevel : Int
  /-- `settings.max_until_execution_unique`. -/
  maxUntilExecutionUnique : Int
  deriving DecidableEq, Repr

/-- The Python exceptions that the guarded evaluation can end with. -/
inductive PyError where
  /-- `IndexError`, with its message. -/
  | indexError (msg : String)
  /-- `RecursionError`: Python's stack is exhausted. -/
  | recursionError (msg : String)
  /-- Any exception that a wrapped evaluation raises, by the name of its class. -/
  | exception (name : String)
  deriving DecidableEq, Repr

/-- The identity of a statement for the recursion check: its module and its position. -/
def Stmt.key (s : Stmt) : Module × Pos := (s.getParentUntil, s.startPos)

/-- `s` and `t` are the same statement for the recursion check: same module, same position, and
neither in `compiled.builtin`. -/
def SameRecursion (t s : Stmt) : Prop :=
  t.getParentUntil = s.getParentUntil ∧ t.startPos = s.startPos ∧
    t.getParentUntil ≠ .builtin ∧ s.getParentUntil ≠ .builtin

instance (t s : Stmt) : Decidable (SameRecursion t s) :=
  inferInstanceAs (Decidable (_ ∧ _ ∧ _ ∧ _))

/-- An execution is exempt from every check but the global budget when its base is an
`iterable.Array` or an `iterable.Generator`, or its module is `compiled.builtin`. -/
def Execution.Exempt (e : Execution) : Prop :=
  e.base.kind = .array ∨ e.base.kind = .generator ∨ e.getParentUntil = .builtin

instance (e : Execution) : Decidable e.Exempt :=
  inferInstanceAs (Decidable (_ ∨ _ ∨ _))

/-! ## Calls in LIFO order -/

/-- A sequence of calls in which each `push x` is matched by one later `pop`, with only matched
calls in between. -/
inductive WellBracketed {α Op : Type} (push : α → Op) (pop : Op) : List Op → Prop where
  /-- No call. -/
  | nil : WellBracketed push pop []
  /-- A push, matched calls, and the pop that matches the push. -/
  | wrap (x : α) {ops : List Op} :
      WellBracketed push pop ops → WellBracketed push pop (push x :: ops ++ [pop])
  /-- Two sequences of matched calls, one after the other. -/
  | append {ops ops' : List Op} :
      WellBracketed push pop ops → WellBracketed push pop ops' →
        WellBracketed push pop (ops ++ ops')

end JediRecursion
