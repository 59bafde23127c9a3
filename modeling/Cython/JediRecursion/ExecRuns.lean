import Mathlib.Data.List.Basic
import Cython.JediRecursion.ExecGuard

/-!
# Runs of the execution guard

A run is any sequence of `push_execution` and `pop_execution` calls from
`ExecutionRecursionDetector()`, where a `pop_execution` on an empty path raises `IndexError` and
the caller goes on. `ExecRun` follows a run together with two records that the guard does not
keep: the pushes that are still on the path, each with what `push_execution` returned, and the
results of all pushes in order. `ExecRun.path_eq` ties the first to the guard:
its bases are `parent_execution_funcs`.

`ExecRun.Inv` collects what every run keeps, and `ExecRun.step_inv` shows that one call keeps
it: the level is the length of the path, the path's bases were all seen, the count is the number
of pushes, no entry that passed the checks below an entry of its base sits above
`max_function_recursion_level` (`LevelBounded`), and at most `max(0, max_executions)` pushes
returned `False`. From these come the invariant of the guard (`runExec_invariant`), the bound on
self-recursion along the path (`runExec_recursion_bounded`) and the permanence of the breadth
ceiling (`runExec_breadth_ceiling`).

Three runs of the spec's scenarios follow for every size: nested pushes of one function are
blocked exactly past `max_function_recursion_level` (`nested_pushExecution_depth_ceiling`), a base
never seen is blocked only by the budgets (`runExec_fresh_base`), and calls in LIFO order give the
path and the level back from any state (`runExec_wellBracketed_restores`).
-/

namespace JediRecursion

open ExecutionRecursionDetector

/-- One call on the execution guard. -/
inductive ExecOp where
  /-- `push_execution(execution)`. -/
  | pushExecution (execution : Execution)
  /-- `pop_execution()`. -/
  | popExecution
  deriving DecidableEq, Repr

/-- Whether a call is a push. -/
def ExecOp.isPush : ExecOp → Bool
  | .pushExecution _ => true
  | .popExecution => false

/-- The number of pushes of a run. -/
def pushCount (ops : List ExecOp) : Nat := ops.countP ExecOp.isPush

/-- A push still on the path: the execution, and what `push_execution` returned for it. -/
structure PathEntry where
  /-- The execution pushed. -/
  execution : Execution
  /-- What `push_execution` returned. -/
  result : Bool
  deriving DecidableEq, Repr

/-- An entry of base `T` that a non-exempt execution pushed and that passed the checks
(`push_execution` returned `False`). -/
def PathEntry.PassedChecks (T : Base) (p : PathEntry) : Prop :=
  p.execution.base = T ∧ ¬p.execution.Exempt ∧ p.result = false

instance (T : Base) (p : PathEntry) : Decidable (p.PassedChecks T) :=
  inferInstanceAs (Decidable (_ ∧ _ ∧ _))

/-- The guard along a run, with the pushes still on its path and the results of all pushes. -/
structure ExecRun where
  /-- The guard. -/
  detector : ExecutionRecursionDetector
  /-- The pushes not popped yet, outermost first. -/
  path : List PathEntry
  /-- What each push returned, in order. -/
  results : List Bool

namespace ExecRun

/-- The start of every run. -/
def init : ExecRun := ⟨ExecutionRecursionDetector.init, [], []⟩

/-- One call. A `pop_execution` that raises leaves the guard as the exception left it. -/
def step (settings : Settings) (r : ExecRun) : ExecOp → ExecRun
  | .pushExecution execution =>
    let pushed := r.detector.pushExecution settings execution
    ⟨pushed.2, r.path ++ [⟨execution, pushed.1⟩], r.results ++ [pushed.1]⟩
  | .popExecution =>
    match popExecution r.detector with
    | .ok () detector => ⟨detector, r.path.dropLast, r.results⟩
    | .error _ detector => { r with detector }

end ExecRun

/-- The run of `ops` from `ExecutionRecursionDetector()`. -/
def runExec (settings : Settings) (ops : List ExecOp) : ExecRun :=
  ops.foldl (ExecRun.step settings) ExecRun.init

@[simp]
theorem runExec_nil (settings : Settings) : runExec settings [] = ExecRun.init := rfl

@[simp]
theorem runExec_append_singleton (settings : Settings) (ops : List ExecOp) (op : ExecOp) :
    runExec settings (ops ++ [op]) = (runExec settings ops).step settings op := by
  simp [runExec]

@[simp]
theorem pushCount_append_singleton (ops : List ExecOp) (op : ExecOp) :
    pushCount (ops ++ [op]) = pushCount ops + if op.isPush then 1 else 0 := by
  cases op <;> simp [pushCount, ExecOp.isPush]

/-- Pushes that passed the checks below an entry of their base sit at most at level
`max_function_recursion_level`: for each such entry, the entries below it are fewer. -/
def LevelBounded (settings : Settings) (path : List PathEntry) : Prop :=
  ∀ pre x, pre ++ [x] <+: path → ¬x.execution.Exempt → x.result = false →
    (∃ y ∈ pre, y.execution.base = x.execution.base) →
      (pre.length : Int) + 1 ≤ settings.maxFunctionRecursionLevel

theorem LevelBounded.of_prefix {settings : Settings} {l path : List PathEntry}
    (h : LevelBounded settings path) (hl : l <+: path) : LevelBounded settings l :=
  fun pre x hx => h pre x (hx.trans hl)

/-- A path whose entries of `T` that passed the checks sit as `LevelBounded` says holds at most
`max(1, max_function_recursion_level)` of them: all but the lowest have an entry of `T` below. -/
theorem countP_passedChecks_le {settings : Settings} {path : List PathEntry}
    (h : LevelBounded settings path) (T : Base) :
    ((path.countP fun p => decide (p.PassedChecks T) : Nat) : Int) ≤
      max 1 settings.maxFunctionRecursionLevel := by
  induction path using List.reverseRecOn with
  | nil => simp
  | append_singleton path x ih =>
    have ih := ih (h.of_prefix (List.prefix_append _ _))
    rw [List.countP_append, List.countP_singleton]
    by_cases hx : x.PassedChecks T
    · rw [if_pos (decide_eq_true hx)]
      obtain ⟨hT, hex, hres⟩ := hx
      by_cases h0 : path.countP (fun p => decide (p.PassedChecks T)) = 0
      · simp [h0]
      · -- An entry of `T` below `x` passed the checks, so `x` sits within the level budget.
        obtain ⟨y, hy, hyT⟩ := List.countP_pos_iff.mp (Nat.pos_of_ne_zero h0)
        have hlev := h path x (List.prefix_refl _) hex hres
          ⟨y, hy, (of_decide_eq_true hyT).1.trans hT.symm⟩
        have hle := List.countP_le_length (fun p => decide (p.PassedChecks T)) (l := path)
        exact le_max_of_le_right (by omega)
    · simpa [hx] using ih

namespace ExecRun

/-- What every run keeps. -/
structure Inv (settings : Settings) (r : ExecRun) : Prop where
  /-- The bases of the pushes on the path are `parent_execution_funcs`. -/
  path_eq : r.path.map (·.execution.base) = r.detector.parentExecutionFuncs
  /-- `recursion_level == len(parent_execution_funcs)`. -/
  level_eq : r.detector.recursionLevel = r.detector.parentExecutionFuncs.length
  /-- Every base on the path is in `execution_funcs`. -/
  parent_subset : ∀ b ∈ r.detector.parentExecutionFuncs, b ∈ r.detector.executionFuncs
  /-- `execution_count` is the number of pushes. -/
  count_eq : r.detector.executionCount = r.results.length
  /-- No more bases were seen than pushes were made. -/
  card_le : r.detector.executionFuncs.card ≤ r.results.length
  /-- No more bases are on the path than pushes were made. -/
  length_le : r.detector.parentExecutionFuncs.length ≤ r.results.length
  /-- The entries that passed the checks sit within the level budget. -/
  levels : LevelBounded settings r.path
  /-- Only pushes within the global budget returned `False`. -/
  falses : (r.results.count false : Int) ≤ max 0 settings.maxExecutions

theorem init_inv (settings : Settings) : init.Inv settings where
  path_eq := rfl
  level_eq := rfl
  parent_subset := by simp [init, ExecutionRecursionDetector.init]
  count_eq := rfl
  card_le := by simp [init, ExecutionRecursionDetector.init]
  length_le := by simp [init, ExecutionRecursionDetector.init]
  levels := fun pre x h => by simp [init] at h
  falses := by simp [init]

/-- A pop on an empty path changes nothing; otherwise it pops the path and the pushes on it. -/
theorem step_popExecution (settings : Settings) (r : ExecRun) :
    r.step settings .popExecution = if r.detector.parentExecutionFuncs = [] then r else
      ⟨{ r.detector with
          parentExecutionFuncs := r.detector.parentExecutionFuncs.dropLast
          recursionLevel := r.detector.recursionLevel - 1 }, r.path.dropLast, r.results⟩ := by
  by_cases hp : r.detector.parentExecutionFuncs = [] <;> simp [step, popExecution_eq, hp]

/-- A push that passed the checks below an entry of its base was made within the level budget. -/
theorem levelBounded_push {settings : Settings} {r : ExecRun} (h : r.Inv settings)
    (e : Execution) :
    LevelBounded settings (r.path ++ [⟨e, (r.detector.pushExecution settings e).1⟩]) := by
  intro pre x hpre hex hres hy
  rcases List.prefix_concat_iff.mp hpre with heq | hpre
  · obtain ⟨rfl, hx⟩ := List.append_inj' heq rfl
    obtain rfl := List.singleton_inj.mp hx
    have hin : e.base ∈ r.detector.parentExecutionFuncs := by
      obtain ⟨y, hy, hyb⟩ := hy
      exact h.path_eq ▸ List.mem_map.mpr ⟨y, hy, hyb⟩
    have hfst := (pushExecution_fst settings r.detector e).not.mp (by simpa using hres)
    push_neg at hfst
    have hlev := hfst.2 hex |>.1 hin
    have hlen := congrArg List.length h.path_eq
    simp only [List.length_map] at hlen
    rw [h.level_eq] at hlev
    omega
  · exact h.levels pre x hpre hex hres hy

/-- A push keeps the invariant. -/
theorem push_inv {settings : Settings} {r : ExecRun} (h : r.Inv settings) (e : Execution) :
    (r.step settings (.pushExecution e)).Inv settings where
  path_eq := by simp [step, h.path_eq]
  level_eq := by simp [step, h.level_eq]
  parent_subset := by
    simp only [step, pushExecution_snd, List.mem_append, List.mem_singleton, Finset.mem_insert]
    rintro b (hb | rfl)
    · exact .inr (h.parent_subset b hb)
    · exact .inl rfl
  count_eq := by simp [step, h.count_eq]
  card_le := by
    simp only [step, pushExecution_snd, List.length_append, List.length_singleton]
    exact (Finset.card_insert_le _ _).trans (Nat.add_le_add_right h.card_le 1)
  length_le := by simpa [step] using h.length_le
  levels := levelBounded_push h e
  falses := by
    simp only [step, List.count_append]
    cases hb : (r.detector.pushExecution settings e).1
    · have hfst := (pushExecution_fst settings r.detector e).not.mp (by simp [hb])
      have hcnt := List.count_le_length false r.results
      have hc := h.count_eq
      push_neg at hfst
      simp only [List.count_singleton_self]
      exact le_max_of_le_right (by omega)
    · simpa using h.falses

/-- A pop keeps the invariant. -/
theorem pop_inv {settings : Settings} {r : ExecRun} (h : r.Inv settings) :
    (r.step settings .popExecution).Inv settings := by
  rw [step_popExecution]
  split
  · exact h
  · next hne =>
    have hpos : 0 < r.detector.parentExecutionFuncs.length := List.length_pos.mpr hne
    exact
      { path_eq := by simp [h.path_eq]
        level_eq := by simp [h.level_eq]; omega
        parent_subset := fun b hb => h.parent_subset b (List.dropLast_subset _ hb)
        count_eq := h.count_eq
        card_le := h.card_le
        length_le := by simp only [List.length_dropLast]; have := h.length_le; omega
        levels := h.levels.of_prefix (List.dropLast_prefix _)
        falses := h.falses }

/-- The step lemma: every call keeps the invariant. -/
theorem step_inv {settings : Settings} {r : ExecRun} (h : r.Inv settings) :
    ∀ op, (r.step settings op).Inv settings
  | .pushExecution e => push_inv h e
  | .popExecution => pop_inv h

end ExecRun

/-- The run lemma: every run keeps the invariant. -/
theorem runExec_inv (settings : Settings) (ops : List ExecOp) :
    (runExec settings ops).Inv settings := by
  induction ops using List.reverseRecOn with
  | nil => exact ExecRun.init_inv settings
  | append_singleton ops op ih => simpa using ExecRun.step_inv ih op

/-- A run records one result per push. -/
theorem runExec_results_length (settings : Settings) (ops : List ExecOp) :
    (runExec settings ops).results.length = pushCount ops := by
  induction ops using List.reverseRecOn with
  | nil => rfl
  | append_singleton ops op ih =>
    cases op with
    | pushExecution e => simp [ExecRun.step, ExecOp.isPush, ih]
    | popExecution =>
      rw [runExec_append_singleton, ExecRun.step_popExecution]
      split <;> simp [ExecOp.isPush, ih]

/-- `execution_count` counts the pushes of a run. -/
theorem runExec_executionCount (settings : Settings) (ops : List ExecOp) :
    (runExec settings ops).detector.executionCount = pushCount ops := by
  rw [(runExec_inv settings ops).count_eq, runExec_results_length]

/-- The invariant of the execution guard over every run: the level is the length of the path,
hence never negative; the path's bases were all seen; the count is the number of pushes and at
least the level and the number of bases seen. `pop_execution` raises exactly on an empty path,
and then leaves the guard as it was; `push_execution` changes the guard the same way whatever it
returns. -/
theorem runExec_invariant (settings : Settings) (ops : List ExecOp) :
    let d := (runExec settings ops).detector
    d.recursionLevel = d.parentExecutionFuncs.length ∧ 0 ≤ d.recursionLevel ∧
      (∀ b ∈ d.parentExecutionFuncs, b ∈ d.executionFuncs) ∧
      d.executionCount = pushCount ops ∧
      max d.recursionLevel d.executionFuncs.card ≤ d.executionCount ∧
      ((∃ err d', popExecution d = .error err d') ↔ d.parentExecutionFuncs = []) ∧
      (∀ err d', popExecution d = .error err d' → d' = d) ∧
      ∀ e, (d.pushExecution settings e).2 =
        { recursionLevel := d.recursionLevel + 1
          parentExecutionFuncs := d.parentExecutionFuncs ++ [e.base]
          executionFuncs := insert e.base d.executionFuncs
          executionCount := d.executionCount + 1 } := by
  have h := runExec_inv settings ops
  have := h.card_le
  have := h.length_le
  refine ⟨h.level_eq, by rw [h.level_eq]; omega, h.parent_subset, runExec_executionCount .., ?_,
    popExecution_raises_iff _, fun _ _ => popExecution_raises_unchanged, fun _ => rfl⟩
  rw [h.level_eq, h.count_eq]
  omega

/-- The bound on self-recursion along the path, over every run and every base `T`: the path holds
at most `max(1, max_function_recursion_level)` entries of `T` that a non-exempt execution pushed
and that passed the checks. The path's entries are the entries of `parent_execution_funcs`. -/
theorem runExec_recursion_bounded (settings : Settings) (ops : List ExecOp) (T : Base) :
    (runExec settings ops).path.map (·.execution.base) =
        (runExec settings ops).detector.parentExecutionFuncs ∧
      (((runExec settings ops).path.countP fun p => decide (p.PassedChecks T) : Nat) : Int) ≤
        max 1 settings.maxFunctionRecursionLevel :=
  ⟨(runExec_inv settings ops).path_eq, countP_passedChecks_le (runExec_inv settings ops).levels T⟩

/-- `n` nested pushes of one execution, with no pop: the level is `n`, the path holds its base
`n` times, and it is the only base seen. -/
theorem runExec_replicate_push (settings : Settings) (e : Execution) (n : Nat) :
    (runExec settings (List.replicate n (.pushExecution e))).detector =
      ⟨n, List.replicate n e.base, if n = 0 then ∅ else {e.base}, n⟩ := by
  induction n with
  | zero => rfl
  | succ n ih =>
    rw [List.replicate_succ', runExec_append_singleton]
    simp only [ExecRun.step, ih, pushExecution_snd, Nat.cast_succ, List.replicate_succ',
      add_eq_zero, one_ne_zero, and_false, if_false]
    split <;> simp_all

/-- The depth ceiling, for every depth: the `(n + 1)`-th nested push of one non-exempt execution,
within the two execution budgets and with room for one base, is blocked exactly when an entry of
its base is below it and its level `n + 1` exceeds `max_function_recursion_level`. -/
theorem nested_pushExecution_depth_ceiling (settings : Settings) (e : Execution) (hex : ¬e.Exempt)
    (n : Nat) (hM : (n : Int) < settings.maxExecutions)
    (hW : (n : Int) < settings.maxExecutionsWithoutBuiltins)
    (hU : 1 ≤ settings.maxUntilExecutionUnique) :
    ((runExec settings (List.replicate n (.pushExecution e))).detector.pushExecution settings e).1 =
      decide (0 < n ∧ settings.maxFunctionRecursionLevel < n + 1) := by
  rw [Bool.eq_iff_iff, pushExecution_fst, runExec_replicate_push, decide_eq_true_iff]
  have hcard : ((if n = 0 then ∅ else {e.base} : Finset Base).card : Int) ≤ 1 := by
    split <;> simp
  simp only [List.mem_replicate, hex, not_false_eq_true, true_and, and_true]
  constructor
  · rintro (h | ⟨hn, h⟩ | ⟨-, h⟩ | h) <;> omega
  · rintro ⟨hn, h⟩
    exact .inr (.inl ⟨by omega, h⟩)

/-- Five nested pushes of a function with `max_function_recursion_level = 5`: the sixth push is
blocked. -/
theorem nested_pushExecution_depth_ceiling_six :
    ¬(⟨⟨0, .other⟩, .other 0⟩ : Execution).Exempt ∧ ((5 : Nat) : Int) < 250 ∧
      ((5 : Nat) : Int) < 200 ∧ (1 : Int) ≤ 50 ∧
      ((runExec ⟨250, 200, 5, 50⟩
          (List.replicate 5 (.pushExecution ⟨⟨0, .other⟩, .other 0⟩))).detector.pushExecution
        ⟨250, 200, 5, 50⟩ ⟨⟨0, .other⟩, .other 0⟩).1 =
        decide (0 < 5 ∧ (5 : Int) < (5 : Nat) + 1) :=
  ⟨by decide, by decide, by decide, by decide,
    nested_pushExecution_depth_ceiling ⟨250, 200, 5, 50⟩ _ (by decide) 5 (by decide) (by decide)
      (by decide)⟩

/-- No call removes a base from `execution_funcs`. -/
theorem executionFuncs_subset_foldl (settings : Settings) (ops : List ExecOp) (r : ExecRun) :
    r.detector.executionFuncs ⊆ (ops.foldl (ExecRun.step settings) r).detector.executionFuncs := by
  induction ops generalizing r with
  | nil => exact subset_rfl
  | cons op ops ih =>
    refine subset_trans ?_ (ih _)
    cases op with
    | pushExecution e => exact Finset.subset_insert _ _
    | popExecution =>
      rw [ExecRun.step_popExecution]
      split <;> exact subset_rfl

/-- The breadth ceiling is permanent: once more than `max_until_execution_unique` bases were seen,
that stays so after any further run, and a non-exempt execution whose base was seen is blocked. -/
theorem runExec_breadth_ceiling (settings : Settings) (ops rest : List ExecOp)
    (h : ((runExec settings ops).detector.executionFuncs.card : Int) >
      settings.maxUntilExecutionUnique) :
    let d := (runExec settings (ops ++ rest)).detector
    (d.executionFuncs.card : Int) > settings.maxUntilExecutionUnique ∧
      ∀ e : Execution, ¬e.Exempt → e.base ∈ d.executionFuncs →
        (d.pushExecution settings e).1 = true := by
  have hsub := executionFuncs_subset_foldl settings rest (runExec settings ops)
  have hcard : ((runExec settings (ops ++ rest)).detector.executionFuncs.card : Int) >
      settings.maxUntilExecutionUnique := by
    rw [runExec, List.foldl_append]
    exact lt_of_lt_of_le h (by exact_mod_cast Finset.card_le_card hsub)
  exact ⟨hcard, fun e hex hin => (pushExecution_fst ..).mpr (.inr ⟨hex, .inr (.inl ⟨hin, hcard⟩)⟩)⟩

/-- With `max_until_execution_unique = 0`, the ceiling holds from the first push on, and still
after a pop. -/
theorem runExec_breadth_ceiling_one_base :
    ((runExec ⟨250, 200, 5, 0⟩ [.pushExecution ⟨⟨0, .other⟩, .other 0⟩]).detector.executionFuncs.card
        : Int) > (⟨250, 200, 5, 0⟩ : Settings).maxUntilExecutionUnique ∧
      ((runExec ⟨250, 200, 5, 0⟩ ([.pushExecution ⟨⟨0, .other⟩, .other 0⟩] ++
          [.popExecution])).detector.executionFuncs.card : Int) >
        (⟨250, 200, 5, 0⟩ : Settings).maxUntilExecutionUnique ∧
      ∀ e : Execution, ¬e.Exempt → e.base ∈ (runExec ⟨250, 200, 5, 0⟩
          ([.pushExecution ⟨⟨0, .other⟩, .other 0⟩] ++ [.popExecution])).detector.executionFuncs →
        ((runExec ⟨250, 200, 5, 0⟩ ([.pushExecution ⟨⟨0, .other⟩, .other 0⟩] ++
          [.popExecution])).detector.pushExecution ⟨250, 200, 5, 0⟩ e).1 = true :=
  ⟨by decide, runExec_breadth_ceiling _ _ _ (by decide)⟩

/-! ## First visits and calls in LIFO order -/

/-- No false positive on a first visit: in every run, a base never pushed before is blocked only
by the two execution budgets. -/
theorem runExec_fresh_base (settings : Settings) (ops : List ExecOp) (e : Execution)
    (hfresh : e.base ∉ (runExec settings ops).detector.executionFuncs) :
    ((runExec settings ops).detector.pushExecution settings e).1 = true ↔
      (pushCount ops : Int) + 1 > settings.maxExecutions ∨
        ¬e.Exempt ∧ (pushCount ops : Int) + 1 > settings.maxExecutionsWithoutBuiltins := by
  have hpar : e.base ∉ (runExec settings ops).detector.parentExecutionFuncs :=
    fun h => hfresh ((runExec_inv settings ops).parent_subset _ h)
  rw [pushExecution_fst, runExec_executionCount]
  simp [hpar, hfresh]

/-- With `max_until_execution_unique = 0`, a second base, pushed after the first was popped, is
still only subject to the budgets. -/
theorem runExec_fresh_base_second :
    (⟨1, .other⟩ : Base) ∉ (runExec ⟨250, 200, 5, 0⟩
        [.pushExecution ⟨⟨0, .other⟩, .other 0⟩, .popExecution]).detector.executionFuncs ∧
      (((runExec ⟨250, 200, 5, 0⟩ [.pushExecution ⟨⟨0, .other⟩, .other 0⟩, .popExecution]
          ).detector.pushExecution ⟨250, 200, 5, 0⟩ ⟨⟨1, .other⟩, .other 0⟩).1 = true ↔
        (pushCount [.pushExecution ⟨⟨0, .other⟩, .other 0⟩, .popExecution] : Int) + 1 >
            (250 : Int) ∨
          ¬(⟨⟨1, .other⟩, .other 0⟩ : Execution).Exempt ∧
            (pushCount [.pushExecution ⟨⟨0, .other⟩, .other 0⟩, .popExecution] : Int) + 1 >
              (200 : Int)) :=
  ⟨by decide, runExec_fresh_base ⟨250, 200, 5, 0⟩ _ ⟨⟨1, .other⟩, .other 0⟩ (by decide)⟩

/-- Matched calls restore the path, the pushes on it and the level, from any state: each pop
finds the entry of its push on top, whatever the push returned. -/
theorem foldl_step_wellBracketed (settings : Settings) {ops : List ExecOp}
    (h : WellBracketed ExecOp.pushExecution ExecOp.popExecution ops) (r : ExecRun) :
    (ops.foldl (ExecRun.step settings) r).detector.parentExecutionFuncs =
        r.detector.parentExecutionFuncs ∧
      (ops.foldl (ExecRun.step settings) r).detector.recursionLevel = r.detector.recursionLevel ∧
      (ops.foldl (ExecRun.step settings) r).path = r.path := by
  induction h generalizing r with
  | nil => exact ⟨rfl, rfl, rfl⟩
  | @wrap e ops _ ih =>
    obtain ⟨hp, hl, hpath⟩ := ih (r.step settings (.pushExecution e))
    simp only [List.foldl_cons, List.foldl_append, List.foldl_nil]
    generalize ops.foldl (ExecRun.step settings) (r.step settings (.pushExecution e)) = r'
      at hp hl hpath
    rw [ExecRun.step_popExecution, if_neg (by simp [hp, ExecRun.step])]
    simp [hp, hl, hpath, ExecRun.step]
  | @append ops ops' _ _ ih ih' =>
    obtain ⟨h₁, h₂, h₃⟩ := ih r
    obtain ⟨h₁', h₂', h₃'⟩ := ih' (ops.foldl (ExecRun.step settings) r)
    rw [List.foldl_append]
    exact ⟨h₁'.trans h₁, h₂'.trans h₂, h₃'.trans h₃⟩

/-- The state machine of a tracked execution, over every run: matched calls that follow, each pop
after its push whatever the push returned, give back the path, the pushes on it and the level,
and count each of their pushes. -/
theorem runExec_wellBracketed_restores (settings : Settings) (ops rest : List ExecOp)
    (h : WellBracketed ExecOp.pushExecution ExecOp.popExecution rest) :
    let r := runExec settings ops
    let r' := runExec settings (ops ++ rest)
    r'.detector.parentExecutionFuncs = r.detector.parentExecutionFuncs ∧
      r'.detector.recursionLevel = r.detector.recursionLevel ∧ r'.path = r.path ∧
      r'.detector.executionCount = r.detector.executionCount + pushCount rest := by
  intro r r'
  have hfold : r' = rest.foldl (ExecRun.step settings) r := List.foldl_append _ _ _ _
  obtain ⟨h₁, h₂, h₃⟩ := foldl_step_wellBracketed settings h r
  refine ⟨hfold ▸ h₁, hfold ▸ h₂, hfold ▸ h₃, ?_⟩
  simp only [r', r, runExec_executionCount, pushCount, List.countP_append]
  omega

/-- A function that calls itself once with `max_function_recursion_level = 1`: the inner push is
blocked, and the two pops still empty the path. -/
theorem runExec_wellBracketed_restores_blocked :
    WellBracketed ExecOp.pushExecution ExecOp.popExecution
        [.pushExecution ⟨⟨0, .other⟩, .other 0⟩, .pushExecution ⟨⟨0, .other⟩, .other 0⟩,
          .popExecution, .popExecution] ∧
      (runExec ⟨250, 200, 1, 50⟩ [.pushExecution ⟨⟨0, .other⟩, .other 0⟩,
        .pushExecution ⟨⟨0, .other⟩, .other 0⟩]).results = [false, true] ∧
      let r := runExec ⟨250, 200, 1, 50⟩ []
      let r' := runExec ⟨250, 200, 1, 50⟩ ([] ++
        [.pushExecution ⟨⟨0, .other⟩, .other 0⟩, .pushExecution ⟨⟨0, .other⟩, .other 0⟩,
          .popExecution, .popExecution])
      r'.detector.parentExecutionFuncs = r.detector.parentExecutionFuncs ∧
        r'.detector.recursionLevel = r.detector.recursionLevel ∧ r'.path = r.path ∧
        r'.detector.executionCount = r.detector.executionCount +
          pushCount [.pushExecution ⟨⟨0, .other⟩, .other 0⟩,
            .pushExecution ⟨⟨0, .other⟩, .other 0⟩, .popExecution, .popExecution] := by
  have h : WellBracketed ExecOp.pushExecution ExecOp.popExecution
      [.pushExecution ⟨⟨0, .other⟩, .other 0⟩, .pushExecution ⟨⟨0, .other⟩, .other 0⟩,
        .popExecution, .popExecution] := .wrap _ (.wrap _ .nil)
  exact ⟨h, by decide, runExec_wellBracketed_restores ⟨250, 200, 1, 50⟩ [] _ h⟩

end JediRecursion
