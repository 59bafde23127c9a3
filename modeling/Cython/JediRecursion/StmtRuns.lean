import Mathlib.Data.List.Basic
import Cython.JediRecursion.StmtGuard

/-!
# Runs of the statement guard hold no recursion

A run is any sequence of `push_stmt` and `pop_stmt` calls from `RecursionDetector()`: pushes that
are rejected, pops with nothing to pop, at any depth. One step moves `node_statements` as the
spec's stack moves (`nodeStatements_apply`), so a run moves it as the stack's run does
(`nodeStatements_runStmtOps`). The stack's push appends only a statement that is not the same
statement for the check as any statement below it, and its pop keeps a prefix, so no two statements
of the chain are ever the same statement (`runStmtOps_no_recursion`). The statements of the chain
were all pushed, and those outside `compiled.builtin` have distinct modules and positions, so
there are at most as many of them as such keys among the pushed statements.

Calls in LIFO order, each pop after its push whatever the push returned, never lengthen the chain,
so from `RecursionDetector()` they leave it empty (`runStmtOps_wellBracketed`).
-/

namespace JediRecursion

/-- One call on the statement guard. -/
inductive StmtOp where
  /-- `push_stmt(stmt)`; a run ignores its result. -/
  | pushStmt (stmt : Stmt)
  /-- `pop_stmt()`. -/
  | popStmt
  deriving DecidableEq, Repr

/-- The statement that a call pushes, if it is a push. -/
def StmtOp.pushed : StmtOp → Option Stmt
  | .pushStmt stmt => some stmt
  | .popStmt => none

/-- The guard after one call. -/
def RecursionDetector.apply (d : RecursionDetector) : StmtOp → RecursionDetector
  | .pushStmt stmt => (d.pushStmt stmt).2
  | .popStmt => d.popStmt

/-- The guard after a run from `RecursionDetector()`. -/
def runStmtOps (ops : List StmtOp) : RecursionDetector :=
  ops.foldl RecursionDetector.apply RecursionDetector.init

/-- The statements that a run pushes, in order. -/
def pushedStmts (ops : List StmtOp) : List Stmt := ops.filterMap StmtOp.pushed

/-- The spec's stack after one call. -/
def stackApply (stack : List Stmt) : StmtOp → List Stmt
  | .pushStmt stmt => (stackPush stack stmt).2
  | .popStmt => stackPop stack

@[simp]
theorem runStmtOps_nil : runStmtOps [] = RecursionDetector.init := rfl

@[simp]
theorem runStmtOps_append_singleton (ops : List StmtOp) (op : StmtOp) :
    runStmtOps (ops ++ [op]) = (runStmtOps ops).apply op := by
  simp [runStmtOps]

@[simp]
theorem pushedStmts_append_singleton (ops : List StmtOp) (op : StmtOp) :
    pushedStmts (ops ++ [op]) = pushedStmts ops ++ op.pushed.toList := by
  cases op <;> simp [pushedStmts, StmtOp.pushed]

/-- One call moves `node_statements` as the stack's operation moves the stack. -/
theorem nodeStatements_apply (d : RecursionDetector) (op : StmtOp) :
    (d.apply op).nodeStatements = stackApply d.nodeStatements op := by
  cases op with
  | pushStmt stmt =>
    simp only [RecursionDetector.apply, stackApply, stackPush, RecursionDetector.pushStmt_eq]
    split <;> simp
  | popStmt => simp [RecursionDetector.apply, stackApply, stackPop]

/-- A stack operation keeps a stack free of recursion. -/
theorem stackApply_pairwise {stack : List Stmt} (op : StmtOp)
    (h : stack.Pairwise fun a b => ¬SameRecursion a b) :
    (stackApply stack op).Pairwise fun a b => ¬SameRecursion a b := by
  cases op with
  | pushStmt stmt =>
    simp only [stackApply, stackPush]
    split
    · exact h
    · next hnot =>
      push_neg at hnot
      exact List.pairwise_append.mpr ⟨h, List.pairwise_singleton _ _,
        fun a ha b hb => (List.mem_singleton.mp hb) ▸ hnot a ha⟩
  | popStmt => exact h.sublist (List.dropLast_sublist _)

/-- A stack operation adds only the statement it pushes. -/
theorem mem_stackApply {stack : List Stmt} {op : StmtOp} {t : Stmt}
    (ht : t ∈ stackApply stack op) : t ∈ stack ∨ t ∈ op.pushed.toList := by
  cases op with
  | pushStmt stmt =>
    simp only [stackApply, stackPush] at ht
    split at ht <;> simp_all [StmtOp.pushed]
  | popStmt => exact .inl (List.dropLast_subset _ ht)

/-- Two statements outside `compiled.builtin` are the same for the check exactly when their keys
agree. -/
theorem sameRecursion_iff_key {a b : Stmt} (ha : a.getParentUntil ≠ .builtin)
    (hb : b.getParentUntil ≠ .builtin) : SameRecursion a b ↔ a.key = b.key := by
  simp [SameRecursion, Stmt.key, ha, hb]

/-- Statements outside `compiled.builtin`, no two the same for the check, are at most as many as
any set of keys that holds theirs. -/
theorem length_le_card_keys {l : List Stmt} {keys : Finset (Module × Pos)}
    (hpw : l.Pairwise fun a b => ¬SameRecursion a b) (hnb : ∀ t ∈ l, t.getParentUntil ≠ .builtin)
    (hkeys : ∀ t ∈ l, t.key ∈ keys) : l.length ≤ keys.card := by
  have hnodup : (l.map Stmt.key).Nodup := by
    refine List.pairwise_map.mpr (hpw.imp_of_mem fun ha hb hne heq => hne ?_)
    exact (sameRecursion_iff_key (hnb _ ha) (hnb _ hb)).mpr heq
  calc l.length = (l.map Stmt.key).toFinset.card := by
        rw [List.toFinset_card_of_nodup hnodup, List.length_map]
    _ ≤ keys.card := Finset.card_le_card fun k hk => by
        obtain ⟨t, ht, rfl⟩ := List.mem_map.mp (List.mem_toFinset.mp hk)
        exact hkeys t ht

/-- A run moves `node_statements` as the stack's run moves the empty stack. -/
theorem nodeStatements_runStmtOps (ops : List StmtOp) :
    (runStmtOps ops).nodeStatements = (ops.foldl stackApply []) := by
  induction ops using List.reverseRecOn with
  | nil => rfl
  | append_singleton ops op ih => simp [nodeStatements_apply, ih]

/-- Every run holds no recursion: no two statements of `node_statements` are in one module outside
`compiled.builtin` at one position. So the statements of the chain outside `compiled.builtin` are
at most as many as the modules and positions of such statements that the run pushed. -/
theorem runStmtOps_no_recursion (ops : List StmtOp) :
    (runStmtOps ops).nodeStatements.Pairwise (fun a b => ¬SameRecursion a b) ∧
      ((runStmtOps ops).nodeStatements.filter fun t => t.getParentUntil ≠ .builtin).length ≤
        (((pushedStmts ops).filter fun t => t.getParentUntil ≠ .builtin).map Stmt.key).toFinset.card := by
  have hinv : (runStmtOps ops).nodeStatements.Pairwise (fun a b => ¬SameRecursion a b) ∧
      ∀ t ∈ (runStmtOps ops).nodeStatements, t ∈ pushedStmts ops := by
    induction ops using List.reverseRecOn with
    | nil => simp [RecursionDetector.init]
    | append_singleton ops op ih =>
      simp only [runStmtOps_append_singleton, nodeStatements_apply, pushedStmts_append_singleton,
        List.mem_append]
      exact ⟨stackApply_pairwise op ih.1, fun t ht => (mem_stackApply ht).imp (ih.2 t) id⟩
  refine ⟨hinv.1, length_le_card_keys (hinv.1.sublist (List.filter_sublist _)) ?_ ?_⟩
  · intro t ht; simpa using (List.mem_filter.mp ht).2
  · intro t ht
    obtain ⟨ht, hnb⟩ := List.mem_filter.mp ht
    exact List.mem_toFinset.mpr (List.mem_map_of_mem _ (List.mem_filter.mpr ⟨hinv.2 t ht, hnb⟩))

/-! ## Calls in LIFO order -/

/-- Matched calls, each pop after its push whatever the push returned, never lengthen the chain:
a push that was blocked linked nothing, and its pop unlinks a node below, or nothing. -/
theorem length_nodeStatements_foldl_le {ops : List StmtOp}
    (h : WellBracketed StmtOp.pushStmt StmtOp.popStmt ops) :
    ∀ d : RecursionDetector,
      (ops.foldl RecursionDetector.apply d).nodeStatements.length ≤ d.nodeStatements.length := by
  induction h with
  | nil => exact fun d => le_rfl
  | wrap stmt _ ih =>
    intro d
    have hpush :
        (d.apply (.pushStmt stmt)).nodeStatements.length ≤ d.nodeStatements.length + 1 := by
      rw [nodeStatements_apply]
      simp only [stackApply, stackPush]
      split <;> simp
    have hin := ih (d.apply (.pushStmt stmt))
    simp only [List.foldl_cons, List.foldl_append, List.foldl_nil, nodeStatements_apply, stackApply,
      stackPop, List.length_dropLast]
    omega
  | append _ _ ih ih' => exact fun d => by rw [List.foldl_append]; exact (ih' _).trans (ih d)

/-- Matched push and pop calls from `RecursionDetector()` leave the chain empty, blocked pushes
included. -/
theorem runStmtOps_wellBracketed {ops : List StmtOp}
    (h : WellBracketed StmtOp.pushStmt StmtOp.popStmt ops) : (runStmtOps ops).nodeStatements = [] :=
  List.eq_nil_of_length_eq_zero (Nat.le_zero.mp (length_nodeStatements_foldl_le h _))

/-- A statement pushed within its own evaluation: the inner push is blocked, and the two pops
still leave the chain empty. -/
theorem runStmtOps_wellBracketed_direct_recursion :
    WellBracketed StmtOp.pushStmt StmtOp.popStmt
        [.pushStmt ⟨0, .other 0, (1, 0)⟩, .pushStmt ⟨0, .other 0, (1, 0)⟩, .popStmt, .popStmt] ∧
      (runStmtOps
        [.pushStmt ⟨0, .other 0, (1, 0)⟩, .pushStmt ⟨0, .other 0, (1, 0)⟩, .popStmt, .popStmt]
        ).nodeStatements = [] := by
  have h : WellBracketed StmtOp.pushStmt StmtOp.popStmt
      [.pushStmt ⟨0, .other 0, (1, 0)⟩, .pushStmt ⟨0, .other 0, (1, 0)⟩, .popStmt, .popStmt] :=
    .wrap _ (.wrap _ .nil)
  exact ⟨h, runStmtOps_wellBracketed h⟩

end JediRecursion
