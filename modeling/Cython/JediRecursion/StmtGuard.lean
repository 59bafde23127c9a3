import Cython.JediRecursion.Basic

/-!
# The statement guard refines a stack of statements

`RecursionDetector` of `recursion.py` keeps the statements under evaluation as a chain of
`_RecursionNode`s, the innermost as `current` and each linked to the node of the evaluation that
encloses it. `push_stmt` links a new node and walks its ancestors with `_check_recursion`; on a
match it unlinks the node again and returns `True`. `node_statements` reads the chain back root
first.

The chain is a list here, innermost node first: its tail is the `parent` chain of its head, and
`[]` is `None`. The spec's design note describes the guard as a stack of statements, oldest first,
with push and pop at one end; `stackPush` and `stackPop` state that stack from the spec's words,
and `pushStmt_refines` shows that `node_statements` maps each operation of the code to the
operation of the stack. The proof goes through one lemma per function: the ancestor walk finds a
node exactly when some ancestor is the same statement for the check
(`checkRecursionLoop_isSome_iff`), and `node_statements` is the reversed chain
(`nodeStatements_eq`). A statement of `compiled.builtin` is never the same statement as another,
so its push is never blocked (`pushStmt_builtin`).
-/

namespace JediRecursion

/-- `_RecursionNode`: a statement on the chain of the statement guard. Its `parent` link is the
rest of the chain that holds it (`RecursionDetector.current`). -/
structure RecursionNode where
  /-- `self.stmt`. -/
  stmt : Stmt
  deriving DecidableEq, Repr

namespace RecursionNode

/-- `self.script`, read in `__init__` as `stmt.get_parent_until()`. -/
def script (n : RecursionNode) : Module := n.stmt.getParentUntil

/-- `self.position`, read in `__init__` as `stmt.start_pos`. -/
def position (n : RecursionNode) : Pos := n.stmt.startPos

/-- `self.is_ignored`: the node is in `compiled.builtin`, whose statements never recur. -/
def isIgnored (n : RecursionNode) : Bool := n.script == .builtin

/-- `_RecursionNode.__eq__` against a node: same module, same position, and neither ignored.
Against `None` it returns `None`; `_check_recursion` reads that as false, see there. -/
def eq (self other : RecursionNode) : Bool :=
  self.script == other.script && self.position == other.position && !self.isIgnored &&
    !other.isIgnored

/-- Two nodes are equal for `__eq__` exactly when their statements are the same statement for the
recursion check. -/
theorem eq_iff (a b : RecursionNode) : a.eq b = true ↔ SameRecursion b.stmt a.stmt := by
  simp only [eq, isIgnored, script, position, SameRecursion, Bool.and_eq_true, beq_iff_eq,
    Bool.not_eq_true', beq_eq_false_iff_ne, ne_eq]
  constructor
  · rintro ⟨⟨⟨h1, h2⟩, h3⟩, h4⟩; exact ⟨h1.symm, h2.symm, h4, h3⟩
  · rintro ⟨h1, h2, h3, h4⟩; exact ⟨⟨⟨h1.symm, h2.symm⟩, h4⟩, h3⟩

end RecursionNode

/-- `_check_recursion`'s loop, from the node `current` just pushed, over the chain of its
ancestors. `test = test.parent` steps to the next ancestor; `current == test` returns that
ancestor when it is the same statement. At the end of the chain `test` is `None`:
`current == None` is `None`, which is false, and `not test` returns `False` (here `none`). -/
def checkRecursionLoop (current : RecursionNode) : List RecursionNode → Option RecursionNode
  | [] => none
  | test :: parent => if current.eq test then some test else checkRecursionLoop current parent

/-- The walk finds an ancestor exactly when some ancestor is the same statement for the check. -/
theorem checkRecursionLoop_isSome_iff (current : RecursionNode) (l : List RecursionNode) :
    (checkRecursionLoop current l).isSome ↔ ∃ t ∈ l, SameRecursion t.stmt current.stmt := by
  induction l with
  | nil => simp [checkRecursionLoop]
  | cons test parent ih =>
    by_cases h : current.eq test = true
    · simp only [checkRecursionLoop, h, if_true, Option.isSome_some, true_iff]
      exact ⟨test, List.mem_cons_self _ _, (RecursionNode.eq_iff _ _).mp h⟩
    · rw [RecursionNode.eq_iff] at h
      simp [checkRecursionLoop, RecursionNode.eq_iff, h, ih]

/-- What the walk finds is an ancestor that is the same statement for the check. -/
theorem checkRecursionLoop_some {current check : RecursionNode} {l : List RecursionNode}
    (h : checkRecursionLoop current l = some check) :
    check ∈ l ∧ SameRecursion check.stmt current.stmt := by
  induction l with
  | nil => simp [checkRecursionLoop] at h
  | cons test parent ih =>
    simp only [checkRecursionLoop] at h
    split at h
    · cases h; exact ⟨List.mem_cons_self _ _, (RecursionNode.eq_iff _ _).mp ‹_›⟩
    · exact (ih h).imp (List.mem_cons_of_mem _) id

/-- `RecursionDetector`: `self.current` with the chain of its `parent` links, innermost first;
`[]` is `None`. (`self.top` is set in `__init__` and never read.) -/
structure RecursionDetector where
  /-- `self.current` and its ancestors. -/
  current : List RecursionNode
  deriving DecidableEq, Repr

namespace RecursionDetector

/-- `RecursionDetector()`. -/
def init : RecursionDetector := ⟨[]⟩

/-- `_check_recursion`: the walk from `self.current` over its ancestors. It is called only right
after `push_stmt` has set `current`; were `current` `None`, Python would raise on `test.parent`. -/
def checkRecursion (self : RecursionDetector) : Option RecursionNode :=
  match self.current with
  | [] => none
  | current :: parent => checkRecursionLoop current parent

/-- `pop_stmt`: `current` becomes its parent; nothing happens when `current` is `None`. -/
def popStmt (self : RecursionDetector) : RecursionDetector := ⟨self.current.tail⟩

/-- `push_stmt`: link a node for `stmt` as `current`, walk its ancestors, and on a match unlink it
again and return `True`. The `debug.warning` it gives then is `stmtRecursionWarning`. -/
def pushStmt (self : RecursionDetector) (stmt : Stmt) : Bool × RecursionDetector :=
  let self : RecursionDetector := ⟨⟨stmt⟩ :: self.current⟩
  match self.checkRecursion with
  | some _ => (true, self.popStmt)
  | none => (false, self)

/-- The arguments of `push_stmt`'s `debug.warning('catched stmt recursion: %s against %s @%s')`:
the statement, the statement of the ancestor found, and the statement's position. -/
def stmtRecursionWarning (self : RecursionDetector) (stmt : Stmt) : Option (Stmt × Stmt × Pos) :=
  (checkRecursionLoop ⟨stmt⟩ self.current).map fun check => (stmt, check.stmt, stmt.startPos)

/-- `node_statements`' loop: `result.insert(0, n.stmt)` and `n = n.parent` while `n` is a node. -/
def nodeStatementsLoop : List RecursionNode → List Stmt → List Stmt
  | [], result => result
  | n :: parent, result => nodeStatementsLoop parent (n.stmt :: result)

/-- `node_statements`: the statements of the chain, root first. -/
def nodeStatements (self : RecursionDetector) : List Stmt := nodeStatementsLoop self.current []

theorem nodeStatementsLoop_eq (l : List RecursionNode) (result : List Stmt) :
    nodeStatementsLoop l result = (l.map RecursionNode.stmt).reverse ++ result := by
  induction l generalizing result with
  | nil => rfl
  | cons n parent ih => simp [nodeStatementsLoop, ih]

/-- `node_statements` is the chain's statements, reversed. -/
theorem nodeStatements_eq (self : RecursionDetector) :
    self.nodeStatements = (self.current.map RecursionNode.stmt).reverse := by
  simp [nodeStatements, nodeStatementsLoop_eq]

@[simp]
theorem nodeStatements_nil : (⟨[]⟩ : RecursionDetector).nodeStatements = [] := rfl

/-- A node linked as `current` is the last statement of `node_statements`. -/
@[simp]
theorem nodeStatements_cons (n : RecursionNode) (l : List RecursionNode) :
    (⟨n :: l⟩ : RecursionDetector).nodeStatements =
      (⟨l⟩ : RecursionDetector).nodeStatements ++ [n.stmt] := by
  simp [nodeStatements_eq]

/-- `pop_stmt` drops the last statement of `node_statements`. -/
@[simp]
theorem nodeStatements_popStmt (self : RecursionDetector) :
    self.popStmt.nodeStatements = self.nodeStatements.dropLast := by
  obtain ⟨_ | ⟨n, l⟩⟩ := self <;> simp [popStmt]

/-- The spec lemma of `push_stmt`: it returns `True` and leaves the guard as it was when a
statement of the chain is the same statement for the check, and otherwise links a node for
`stmt` and returns `False`. -/
theorem pushStmt_eq (self : RecursionDetector) (stmt : Stmt) :
    self.pushStmt stmt = if ∃ t ∈ self.nodeStatements, SameRecursion t stmt then (true, self)
      else (false, ⟨⟨stmt⟩ :: self.current⟩) := by
  obtain ⟨current⟩ := self
  have hiff := checkRecursionLoop_isSome_iff ⟨stmt⟩ current
  simp only [nodeStatements_eq, List.mem_reverse, List.mem_map, exists_exists_and_eq_and]
  simp only [pushStmt, checkRecursion, popStmt, List.tail_cons]
  cases h : checkRecursionLoop ⟨stmt⟩ current
  · rw [if_neg (by simpa [h] using hiff)]
  · rw [if_pos (by simpa [h] using hiff)]

/-- The warning is given exactly when `push_stmt` returns `True`, and it names a statement of the
chain that is the same statement for the check. -/
theorem stmtRecursionWarning_spec (self : RecursionDetector) (stmt : Stmt) :
    ((self.stmtRecursionWarning stmt).isSome ↔ (self.pushStmt stmt).1 = true) ∧
      ∀ w ∈ self.stmtRecursionWarning stmt,
        w.1 = stmt ∧ w.2.1 ∈ self.nodeStatements ∧ SameRecursion w.2.1 stmt ∧ w.2.2 = stmt.startPos := by
  have hiff := checkRecursionLoop_isSome_iff ⟨stmt⟩ self.current
  refine ⟨?_, ?_⟩
  · rw [pushStmt_eq]
    simp only [stmtRecursionWarning, Option.isSome_map, hiff, nodeStatements_eq, List.mem_reverse,
      List.mem_map, exists_exists_and_eq_and]
    split <;> simp_all
  · intro w hw
    obtain ⟨check, hc, rfl⟩ := Option.mem_map.mp hw
    obtain ⟨hmem, hsame⟩ := checkRecursionLoop_some hc
    exact ⟨rfl, by rw [nodeStatements_eq]; exact List.mem_reverse.mpr (List.mem_map_of_mem _ hmem),
      hsame, rfl⟩

/-- A statement of `compiled.builtin` is never blocked: it is linked whatever the chain holds,
even a node of the same statement. -/
theorem pushStmt_builtin (self : RecursionDetector) (stmt : Stmt)
    (h : stmt.getParentUntil = .builtin) :
    self.pushStmt stmt = (false, ⟨⟨stmt⟩ :: self.current⟩) := by
  rw [pushStmt_eq, if_neg]
  rintro ⟨t, -, -, -, -, hs⟩
  exact hs h

/-- A builtin statement pushed within its own evaluation is linked a second time. -/
theorem pushStmt_builtin_nested :
    (⟨0, .builtin, (1, 0)⟩ : Stmt).getParentUntil = .builtin ∧
      (⟨[⟨⟨0, .builtin, (1, 0)⟩⟩]⟩ : RecursionDetector).pushStmt ⟨0, .builtin, (1, 0)⟩ =
        (false, ⟨[⟨⟨0, .builtin, (1, 0)⟩⟩, ⟨⟨0, .builtin, (1, 0)⟩⟩]⟩) :=
  ⟨rfl, pushStmt_builtin ⟨[⟨⟨0, .builtin, (1, 0)⟩⟩]⟩ _ rfl⟩

end RecursionDetector

/-! ## The stack of the spec -/

/-- The push of the spec's stack of statements, oldest first: `True` and no change when the stack
holds the same statement for the check, and otherwise `False` with `s` appended. -/
def stackPush (stack : List Stmt) (s : Stmt) : Bool × List Stmt :=
  if ∃ t ∈ stack, SameRecursion t s then (true, stack) else (false, stack ++ [s])

/-- The pop of the spec's stack: the last statement goes; the empty stack stays empty. -/
def stackPop (stack : List Stmt) : List Stmt := stack.dropLast

open RecursionDetector in
/-- The linked chain refines the stack under `node_statements`: `push_stmt` returns what the
stack's push returns and moves `node_statements` as the stack's push moves the stack, and
`pop_stmt` moves it as the stack's pop does. -/
theorem pushStmt_refines (d : RecursionDetector) (s : Stmt) :
    Prod.map id nodeStatements (d.pushStmt s) = stackPush d.nodeStatements s ∧
      d.popStmt.nodeStatements = stackPop d.nodeStatements := by
  refine ⟨?_, nodeStatements_popStmt d⟩
  rw [pushStmt_eq, stackPush]
  split <;> simp

end JediRecursion
