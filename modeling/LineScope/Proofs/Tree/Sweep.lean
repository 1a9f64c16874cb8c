import LineScope.Proofs.Tree.Preorder
import LineScope.Tree.Search

/-!
# A sweep is a fold over the pre-order

The stack of a sweep holds subtrees. What they list, from the top of the stack down, is what the sweep
has yet to visit (`pending`): a visit takes the first node off that list and puts nothing else in its
place, because the children it pushes list what came after the node (`pending_cons`). So a sweep weighs
the pending nodes one by one against its best node (`run_eq`), and a search weighs the nodes of the tree
in pre-order, beginning without a best node (`enclosing?_eq`).
-/
namespace LineScope.Sweep

open TreeNode

variable {N : Type} [TreeNode N]

def pending (s : Sweep N) : List (Located N) := s.stack.flatMap Located.listing

/-- The rows of the node that is best so far; none if there is no such node. -/
def spanOf : Option (Located N) → UInt64
  | some l => rowSpan l.node
  | none => 0

theorem bestSpan_eq (s : Sweep N) : s.bestSpan = spanOf s.best := by
  unfold bestSpan spanOf
  cases s.best <;> rfl

/-- The best node once `l` is weighed against the best so far. -/
def weigh (r : LineRange) (best : Option (Located N)) (l : Located N) :
    Checked (Option (Located N)) := do
  let fits ← spans r l.node
  return if fits && decide (spanOf best < rowSpan l.node) then some l else best

/-! ## One visit -/

theorem visit_eq (r : LineRange) (s : Sweep N) (top : Located N) (rest : List (Located N)) :
    s.visit r top rest =
      (weigh r s.best top).map fun best => ⟨top.children ++ rest, best, s.visited + 1⟩ := by
  unfold visit weigh
  rw [bestSpan_eq]
  cases spans r top.node <;> rfl

/-- A visit takes the first pending node off. -/
theorem pending_cons {s s' : Sweep N} {top : Located N} {rest : List (Located N)}
    (hs : s.stack = top :: rest) (hs' : s'.stack = top.children ++ rest) :
    s.pending = top :: s'.pending := by
  rw [pending, pending, hs, hs', List.flatMap_cons, List.flatMap_append, Located.listing_eq,
    List.cons_append]

/-! ## A whole sweep -/

theorem run_nil (r : LineRange) {s : Sweep N} (hs : s.stack = []) : s.run r = .ok s := by
  rw [run]
  split
  · rfl
  · rename_i heq; rw [hs] at heq; cases heq

theorem run_cons (r : LineRange) {s : Sweep N} {top : Located N} {rest : List (Located N)}
    (hs : s.stack = top :: rest) : s.run r = (s.visit r top rest).bind (run r) := by
  rw [run]
  split
  · rename_i heq; rw [hs] at heq; cases heq
  · rename_i heq
    rw [hs, List.cons.injEq] at heq
    obtain ⟨rfl, rfl⟩ := heq
    split <;> rename_i hv <;> rw [hv] <;> rfl

/-- **A sweep weighs what is pending**, one node after the other, and counts it. -/
theorem run_eq (r : LineRange) (s : Sweep N) :
    s.run r = (s.pending.foldlM (weigh r) s.best).map fun best =>
      ⟨[], best, s.visited + s.pending.length⟩ := by
  fun_induction run r s with
  | case1 s hs =>
    obtain ⟨stack, best, visited⟩ := s
    subst hs
    rfl
  | case2 s top rest hs o hv =>
    have hp : s.pending = top :: pending ⟨top.children ++ rest, s.best, 0⟩ := pending_cons hs rfl
    rw [visit_eq] at hv
    rw [hp, List.foldlM_cons]
    cases hw : weigh r s.best top with
    | error o' => rw [hw] at hv; cases hv; rfl
    | ok best => rw [hw] at hv; cases hv
  | case3 s top rest hs s' hv ih =>
    rw [ih, pending_cons hs (stack_of_visit hv), List.foldlM_cons]
    rw [visit_eq] at hv
    cases hw : weigh r s.best top with
    | error o' => rw [hw] at hv; cases hv
    | ok best =>
      rw [hw] at hv
      cases hv
      simp only [bind, Except.bind, List.length_cons]
      rw [Nat.add_assoc, Nat.add_comm 1]

end Sweep

open Sweep TreeNode in
theorem enclosing?_eq {N : Type} [TreeNode N] (root : N) (r : LineRange) :
    enclosing? (some root) r = Result.ofChecked ((preorder root).foldlM (weigh r) none) := by
  have hp : (Sweep.start root).pending = preorder root := by
    rw [pending, Sweep.start, List.flatMap_singleton, Located.listing_root]
  have hb : (Sweep.start root).best = none := rfl
  simp only [enclosing?]
  rw [run_eq, hp, hb]
  cases (preorder root).foldlM (weigh r) none <;> rfl

end LineScope
