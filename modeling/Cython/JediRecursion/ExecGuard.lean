import Cython.JediRecursion.Basic

/-!
# The execution guard

`ExecutionRecursionDetector` of `recursion.py` counts executions. `push_execution` records the
execution's base in the set of all bases seen (`execution_funcs`) and on the path
(`parent_execution_funcs`), counts one more level and one more execution, and then decides, in
this order: the global budget blocks; an `iterable.Array` or `iterable.Generator` base, or an
execution in `compiled.builtin`, passes; a base already on the path past
`max_function_recursion_level` blocks; a base seen before once more than
`max_until_execution_unique` bases were seen blocks; and last the budget without builtins decides.
`pop_execution` pops the path, which raises `IndexError` on an empty path before the level is
lowered.

`pushExecution_snd` and `pushExecution_fst` are the spec lemmas of `push_execution`: what it does
to the state, which its result does not change, and its result as one Boolean formula.
`popExecution_eq` is the spec lemma of `pop_execution`. The exemption comes after the global
budget: an exempt execution is blocked exactly past `max_executions` (`pushExecution_exempt`).
-/

namespace JediRecursion

/-- `ExecutionRecursionDetector`, with its four attributes. -/
structure ExecutionRecursionDetector where
  /-- `self.recursion_level`. -/
  recursionLevel : Int
  /-- `self.parent_execution_funcs`: the bases on the path, outermost first. -/
  parentExecutionFuncs : List Base
  /-- `self.execution_funcs`: every base pushed so far. -/
  executionFuncs : Finset Base
  /-- `self.execution_count`. -/
  executionCount : Int
  deriving DecidableEq

namespace ExecutionRecursionDetector

/-- `ExecutionRecursionDetector()`. -/
def init : ExecutionRecursionDetector := ⟨0, [], ∅, 0⟩

/-- `pop_execution`: `self.parent_execution_funcs.pop()`, which raises `IndexError` on an empty
list, then `self.recursion_level -= 1`. -/
def popExecution : EStateM PyError ExecutionRecursionDetector Unit := do
  let self ← get
  if self.parentExecutionFuncs = [] then throw (.indexError "pop from empty list")
  set { self with parentExecutionFuncs := self.parentExecutionFuncs.dropLast }
  modify fun self => { self with recursionLevel := self.recursionLevel - 1 }

/-- `push_execution`: record the base, then decide whether to block the execution. -/
def pushExecution (settings : Settings) (self : ExecutionRecursionDetector)
    (execution : Execution) : Bool × ExecutionRecursionDetector :=
  let inParExecutionFuncs := execution.base ∈ self.parentExecutionFuncs
  let inExecutionFuncs := execution.base ∈ self.executionFuncs
  let self : ExecutionRecursionDetector :=
    { recursionLevel := self.recursionLevel + 1
      executionCount := self.executionCount + 1
      executionFuncs := insert execution.base self.executionFuncs
      parentExecutionFuncs := self.parentExecutionFuncs ++ [execution.base] }
  let result :=
    if self.executionCount > settings.maxExecutions then true
    else if execution.base.kind = .array ∨ execution.base.kind = .generator then false
    else if execution.getParentUntil = .builtin then false
    else if inParExecutionFuncs ∧ self.recursionLevel > settings.maxFunctionRecursionLevel then true
    else if inExecutionFuncs ∧
        (self.executionFuncs.card : Int) > settings.maxUntilExecutionUnique then true
    else self.executionCount > settings.maxExecutionsWithoutBuiltins
  (result, self)

/-- The spec lemma of `pop_execution`: on an empty path it raises `IndexError` and changes
nothing; otherwise it drops the last base and lowers the level. -/
theorem popExecution_eq (self : ExecutionRecursionDetector) :
    popExecution self = if self.parentExecutionFuncs = [] then
        .error (.indexError "pop from empty list") self
      else .ok ()
        { self with
          parentExecutionFuncs := self.parentExecutionFuncs.dropLast
          recursionLevel := self.recursionLevel - 1 } := by
  by_cases h : self.parentExecutionFuncs = [] <;>
    simp [popExecution, h, bind, EStateM.bind, get, getThe, MonadStateOf.get, EStateM.get, throw,
      throwThe, MonadExceptOf.throw, EStateM.throw, set, EStateM.set, modify, modifyGet,
      MonadStateOf.modifyGet, EStateM.modifyGet, pure, EStateM.pure]

/-- `pop_execution` raises exactly on an empty path. -/
theorem popExecution_raises_iff (self : ExecutionRecursionDetector) :
    (∃ err self', popExecution self = .error err self') ↔ self.parentExecutionFuncs = [] := by
  rw [popExecution_eq]
  split <;> simp_all

/-- A `pop_execution` that raises leaves the guard as it was. -/
theorem popExecution_raises_unchanged {self self' : ExecutionRecursionDetector} {err : PyError}
    (h : popExecution self = .error err self') : self' = self := by
  rw [popExecution_eq] at h
  split at h <;> cases h
  rfl

/-- What `push_execution` does to the state, whatever it returns and whatever the settings. -/
@[simp]
theorem pushExecution_snd (settings : Settings) (self : ExecutionRecursionDetector)
    (execution : Execution) :
    (pushExecution settings self execution).2 =
      { recursionLevel := self.recursionLevel + 1
        parentExecutionFuncs := self.parentExecutionFuncs ++ [execution.base]
        executionFuncs := insert execution.base self.executionFuncs
        executionCount := self.executionCount + 1 } := rfl

/-- The shape of `push_execution`'s decision: a check that blocks, two that pass, two that block,
and the last comparison. -/
theorem decide_chain_eq_true {A B C D E : Prop} [Decidable A] [Decidable B] [Decidable C]
    [Decidable D] [Decidable E] (F : Bool) :
    (if A then true else if B then false else if C then false else if D then true
      else if E then true else F) = true ↔ A ∨ ¬(B ∨ C) ∧ (D ∨ E ∨ F = true) := by
  by_cases A <;> by_cases B <;> by_cases C <;> by_cases D <;> by_cases E <;> simp_all

/-- What `push_execution` returns: `True` past the global budget, and otherwise, for an execution
that is not exempt, `True` past one of the other three checks. The counts are those after the
push; the set of bases is the one before, which is the same whenever the base is in it. -/
theorem pushExecution_fst (settings : Settings) (self : ExecutionRecursionDetector)
    (execution : Execution) :
    (pushExecution settings self execution).1 = true ↔
      self.executionCount + 1 > settings.maxExecutions ∨
        ¬execution.Exempt ∧
          (execution.base ∈ self.parentExecutionFuncs ∧
              self.recursionLevel + 1 > settings.maxFunctionRecursionLevel ∨
            execution.base ∈ self.executionFuncs ∧
              (self.executionFuncs.card : Int) > settings.maxUntilExecutionUnique ∨
            self.executionCount + 1 > settings.maxExecutionsWithoutBuiltins) := by
  have hcard : (execution.base ∈ self.executionFuncs ∧
      ((insert execution.base self.executionFuncs).card : Int) > settings.maxUntilExecutionUnique) ↔
      (execution.base ∈ self.executionFuncs ∧
        (self.executionFuncs.card : Int) > settings.maxUntilExecutionUnique) :=
    and_congr_right fun h => by rw [Finset.insert_eq_of_mem h]
  simp only [pushExecution, decide_chain_eq_true, hcard, Execution.Exempt, decide_eq_true_eq,
    or_assoc]

end ExecutionRecursionDetector

end JediRecursion
