import Mathlib.Logic.Relation
import Cython.JediRecursion.StmtRuns
import Cython.JediRecursion.Decorators

/-!
# The statement guard stops every cycle of statements

`evalStmt` is the decorated statement evaluation of an evaluator in which the evaluation of a
statement asks, through the decorated entry point, for the statements `deps stmt`, whatever the
shape of that dependency graph. Python's stack is the fuel: each decorated call takes one frame,
and past the last `RecursionError` is raised.

When the statements reachable from `s` are outside `compiled.builtin` and their modules and
positions lie in a finite set `keys`, every chain that the evaluation builds holds distinct
reachable statements (`ChainOK`), hence at most `keys.card` of them. An evaluation that enters
its wrapped function lengthens the chain by one, so `keys.card + 1` frames suffice for the whole
evaluation to return, with the chain as it found it (`evalStmt_ok`); and the wrapped function only
ever runs on a chain that `ChainOK` describes (`evalStmt_log`).

The evaluator is not part of the sources: `evalStmt` follows the spec's description of it, an
evaluator that wraps its statement entry point with `recursion_decorator`. The evaluator with both
entry points, `evalQuery`, is this evaluation on a call graph of statements only
(`evalQuery_stmtCalls`).
-/

namespace JediRecursion

open Relation

variable {α : Type}

/-- Modelled from the spec: the decorated evaluation of `stmt`, with `fuel` frames left on Python's
stack. The wrapped function evaluates `deps stmt` through the decorated entry point, one after the
other, and makes its result with `combine` from the statement, the chain it runs on
(`node_statements()`), and their results. -/
def evalStmt (deps : Stmt → List Stmt) (combine : Stmt → List Stmt → List (List α) → List α) :
    Nat → Stmt → EStateM PyError Evaluator (List α)
  | 0, _ => throw (.recursionError "maximum recursion depth exceeded")
  | fuel + 1, stmt => recursionDecorator (fun stmt => do
      let chain := (← get).recursionDetector.nodeStatements
      let results ← (deps stmt).mapM (evalStmt deps combine fuel)
      return combine stmt chain results) stmt

/-- The spec lemma of the decorated evaluation: a statement of the chain the same for the check
gives `[]`; otherwise the dependencies are evaluated on the chain with `stmt` linked, which is
unlinked when they return. -/
theorem evalStmt_succ (deps : Stmt → List Stmt)
    (combine : Stmt → List Stmt → List (List α) → List α) (fuel : Nat) (stmt : Stmt)
    (ev : Evaluator) :
    evalStmt deps combine (fuel + 1) stmt ev =
      if ∃ t ∈ ev.recursionDetector.nodeStatements, SameRecursion t stmt then .ok [] ev
      else match (deps stmt).mapM (evalStmt deps combine fuel) (ev.pushNode stmt) with
        | .ok results ev' =>
          .ok (combine stmt (ev.recursionDetector.nodeStatements ++ [stmt]) results)
            { ev' with recursionDetector := ev'.recursionDetector.popStmt }
        | .error e ev' => .error e ev' := by
  obtain ⟨⟨current⟩, d⟩ := ev
  rw [evalStmt, recursionDecorator_apply]
  split
  · rfl
  · dsimp only [bind, EStateM.bind, get, getThe, MonadStateOf.get, EStateM.get, pure,
      EStateM.pure, Evaluator.pushNode]
    cases (deps stmt).mapM (evalStmt deps combine fuel) ⟨⟨⟨stmt⟩ :: current⟩, d⟩ <;> simp

section Cycles

variable (deps : Stmt → List Stmt) (s : Stmt) (keys : Finset (Module × Pos))

/-- A chain that the evaluation of `s` can build: statements reachable from `s`, no two the same
for the check. -/
def ChainOK (chain : List Stmt) : Prop :=
  chain.Pairwise (fun a b => ¬SameRecursion a b) ∧
    ∀ t ∈ chain, ReflTransGen (fun a b => b ∈ deps a) s t

variable {deps s keys}

theorem ChainOK.nil : ChainOK deps s [] := ⟨List.Pairwise.nil, by simp⟩

/-- Linking a reachable statement that is not the same as any on the chain keeps the chain one
the evaluation can build. -/
theorem ChainOK.push {chain : List Stmt} {t : Stmt} (h : ChainOK deps s chain)
    (ht : ReflTransGen (fun a b => b ∈ deps a) s t) (hnot : ¬∃ u ∈ chain, SameRecursion u t) :
    ChainOK deps s (chain ++ [t]) := by
  push_neg at hnot
  refine ⟨List.pairwise_append.mpr ⟨h.1, List.pairwise_singleton _ _, ?_⟩, ?_⟩
  · intro a ha b hb
    exact (List.mem_singleton.mp hb) ▸ hnot a ha
  · simpa [or_imp, forall_and] using ⟨h.2, ht⟩

/-- The run lemma of the chains: when the evaluation that reports every chain its wrapped function
runs on returns, it has left the evaluator as it found it, and every chain it reports is one the
evaluation can build. -/
theorem evalStmt_log :
    ∀ (fuel : Nat) (t : Stmt) (ev : Evaluator) (r : List (List Stmt)) (ev' : Evaluator),
      ReflTransGen (fun a b => b ∈ deps a) s t →
      ChainOK deps s ev.recursionDetector.nodeStatements →
      evalStmt deps (fun _ chain results => chain :: results.flatten) fuel t ev = .ok r ev' →
      ev' = ev ∧ ∀ chain ∈ r, ChainOK deps s chain
  | 0, _, _, _, _, _, _, h => by cases h
  | fuel + 1, t, ev, r, ev', ht, hc, h => by
    rw [evalStmt_succ] at h
    split at h
    · cases h; exact ⟨rfl, by simp⟩
    · next hnot =>
      have hc' : ChainOK deps s (ev.pushNode t).recursionDetector.nodeStatements := by
        simpa using hc.push ht hnot
      split at h
      · next rs ev₁ hmap =>
        cases h
        obtain ⟨rfl, hrs⟩ := mapM_ok_inv (· = ev.pushNode t)
          (fun r => ∀ chain ∈ r, ChainOK deps s chain) (deps t) (ev.pushNode t) rs ev₁ rfl
          (fun u hu ev₂ r₂ ev₃ hev₂ h₂ => by
            subst hev₂
            exact evalStmt_log fuel u _ r₂ ev₃ (ht.tail hu) hc' h₂) hmap
        refine ⟨rfl, ?_⟩
        simp only [List.mem_cons, List.mem_flatten]
        rintro chain (rfl | ⟨l, hl, hchain⟩)
        · simpa using hc'
        · exact hrs l hl chain hchain
      · cases h

variable (hreach : ∀ t, ReflTransGen (fun a b => b ∈ deps a) s t →
  t.getParentUntil ≠ .builtin ∧ t.key ∈ keys)
include hreach

/-- A chain the evaluation can build holds at most `keys.card` statements. -/
theorem ChainOK.length_le {chain : List Stmt} (h : ChainOK deps s chain) :
    chain.length ≤ keys.card :=
  length_le_card_keys h.1 (fun t ht => (hreach t (h.2 t ht)).1)
    (fun t ht => (hreach t (h.2 t ht)).2)

/-- The run lemma of termination: from a chain the evaluation can build, with one frame more than
the statements the chain can still take, the evaluation of a reachable statement returns and
leaves the evaluator as it found it. -/
theorem evalStmt_ok (combine : Stmt → List Stmt → List (List α) → List α) :
    ∀ (fuel : Nat) (t : Stmt) (ev : Evaluator), ReflTransGen (fun a b => b ∈ deps a) s t →
      ChainOK deps s ev.recursionDetector.nodeStatements →
      keys.card + 1 ≤ fuel + ev.recursionDetector.nodeStatements.length →
      ∃ r, evalStmt deps combine fuel t ev = .ok r ev
  | 0, t, ev, _, hc, hfuel => absurd (hc.length_le hreach) (by omega)
  | fuel + 1, t, ev, ht, hc, hfuel => by
    rw [evalStmt_succ]
    split
    · exact ⟨[], rfl⟩
    · next hnot =>
      -- The dependencies run on the chain with `t` linked, which they leave as they found it.
      have hc' : ChainOK deps s (ev.pushNode t).recursionDetector.nodeStatements := by
        simpa using hc.push ht hnot
      have hlen := hc'.length_le hreach
      obtain ⟨rs, ev', hmap, rfl⟩ := mapM_ok_of_forall (· = ev.pushNode t) (deps t)
        (ev.pushNode t) rfl fun u hu ev₁ hev₁ => by
          subst hev₁
          obtain ⟨r, hr⟩ := evalStmt_ok combine fuel u (ev.pushNode t) (ht.tail hu) hc'
            (by simp only [Evaluator.pushNode_nodeStatements, List.length_append,
              List.length_singleton] at hlen ⊢; omega)
          exact ⟨r, _, hr, rfl⟩
      rw [hmap]
      exact ⟨_, rfl⟩

end Cycles

/-- The statement guard stops every cycle of statements. When the statements reachable from `s`
through `deps` are outside `compiled.builtin` and their modules and positions lie in `keys`, then
on a new evaluator: with more than `keys.card` frames the decorated evaluation of `s` returns, and
leaves the evaluator new, its chain empty, whatever the wrapped function makes of the results; the
chains that its wrapped function runs on hold at most `keys.card` statements; and a decorated
evaluation of a reachable statement whose module and position are already on the chain returns
`[]` and changes nothing, whatever the wrapped function. -/
theorem evalStmt_stops_cycles (deps : Stmt → List Stmt) (s : Stmt) (keys : Finset (Module × Pos))
    (hreach : ∀ t, ReflTransGen (fun a b => b ∈ deps a) s t →
      t.getParentUntil ≠ .builtin ∧ t.key ∈ keys) :
    (∀ (combine : Stmt → List Stmt → List (List α) → List α) (fuel : Nat), keys.card < fuel →
      ∃ r, evalStmt deps combine fuel s Evaluator.init = .ok r Evaluator.init) ∧
    (∀ (fuel : Nat) (r : List (List Stmt)) (ev : Evaluator),
      evalStmt deps (fun _ chain results => chain :: results.flatten) fuel s Evaluator.init =
        .ok r ev → ∀ chain ∈ r, chain.length ≤ keys.card) ∧
    (∀ (func : Stmt → EStateM PyError Evaluator (List α)) (t : Stmt) (ev : Evaluator),
      ReflTransGen (fun a b => b ∈ deps a) s t →
      (∃ u ∈ ev.recursionDetector.nodeStatements, u.key = t.key) →
      recursionDecorator func t ev = .ok [] ev) := by
  refine ⟨fun combine fuel hfuel => evalStmt_ok hreach combine fuel s Evaluator.init
      ReflTransGen.refl ChainOK.nil (by simp [Evaluator.init]; omega), ?_, ?_⟩
  · intro fuel r ev h chain hchain
    exact ((evalStmt_log fuel s Evaluator.init r ev ReflTransGen.refl ChainOK.nil h).2 chain
      hchain).length_le hreach
  · rintro func t ev ht ⟨u, hu, hkey⟩
    have hnb := (hreach t ht).1
    have hu' : u.getParentUntil ≠ .builtin := (congrArg Prod.fst hkey).trans_ne hnb
    rw [recursionDecorator_apply, if_pos ⟨u, hu, (sameRecursion_iff_key hu' hnb).mpr hkey⟩]

/-- A statement at `(1, 0)` whose evaluation asks for a second statement and for itself, and a
second statement whose evaluation asks for the first: a self-recursion and a mutual recursion. -/
def selfAndMutualDeps (t : Stmt) : List Stmt :=
  if t.startPos = (1, 0) then [⟨1, .other 0, (2, 0)⟩, ⟨0, .other 0, (1, 0)⟩]
  else [⟨0, .other 0, (1, 0)⟩]

/-- The guard stops the self-recursion and the mutual recursion of `selfAndMutualDeps`. -/
theorem evalStmt_stops_cycles_self_and_mutual :
    (∀ t, ReflTransGen (fun a b => b ∈ selfAndMutualDeps a) ⟨0, .other 0, (1, 0)⟩ t →
      t.getParentUntil ≠ .builtin ∧
        t.key ∈ ({(.other 0, (1, 0)), (.other 0, (2, 0))} : Finset (Module × Pos))) ∧
    (∀ (combine : Stmt → List Stmt → List (List Nat) → List Nat) (fuel : Nat),
      ({(.other 0, (1, 0)), (.other 0, (2, 0))} : Finset (Module × Pos)).card < fuel →
      ∃ r, evalStmt selfAndMutualDeps combine fuel ⟨0, .other 0, (1, 0)⟩ Evaluator.init =
        .ok r Evaluator.init) ∧
    (∀ (fuel : Nat) (r : List (List Stmt)) (ev : Evaluator),
      evalStmt selfAndMutualDeps (fun _ chain results => chain :: results.flatten) fuel
          ⟨0, .other 0, (1, 0)⟩ Evaluator.init = .ok r ev →
        ∀ chain ∈ r, chain.length ≤
          ({(.other 0, (1, 0)), (.other 0, (2, 0))} : Finset (Module × Pos)).card) ∧
    (∀ (func : Stmt → EStateM PyError Evaluator (List Nat)) (t : Stmt) (ev : Evaluator),
      ReflTransGen (fun a b => b ∈ selfAndMutualDeps a) ⟨0, .other 0, (1, 0)⟩ t →
      (∃ u ∈ ev.recursionDetector.nodeStatements, u.key = t.key) →
      recursionDecorator func t ev = .ok [] ev) := by
  have hreach : ∀ t, ReflTransGen (fun a b => b ∈ selfAndMutualDeps a) ⟨0, .other 0, (1, 0)⟩ t →
      t.getParentUntil ≠ .builtin ∧
        t.key ∈ ({(.other 0, (1, 0)), (.other 0, (2, 0))} : Finset (Module × Pos)) := by
    intro t ht
    have : t = ⟨0, .other 0, (1, 0)⟩ ∨ t = ⟨1, .other 0, (2, 0)⟩ := by
      induction ht with
      | refl => exact .inl rfl
      | tail _ hb _ =>
        unfold selfAndMutualDeps at hb
        split at hb <;> simp only [List.mem_cons, List.mem_singleton, List.not_mem_nil,
          or_false] at hb <;> tauto
    rcases this with rfl | rfl <;> decide
  exact ⟨hreach, evalStmt_stops_cycles _ _ _ hreach⟩

end JediRecursion
