import LineScope.Tree.Node

/-!
# The search for the enclosing node

One sweep visits every node, each before its children and children in order. Of the nodes whose lines
cover the range it keeps the one that covers the most rows, and of equals the first.
-/
namespace LineScope

/-- A sweep under way: the subtrees still to visit, the next one first, the best node so far and the
number of nodes visited. -/
structure Sweep (N : Type) where
  stack : List (Located N)
  best : Option (Located N)
  visited : Nat

namespace Sweep

variable {N : Type} [TreeNode N]

def start (root : N) : Sweep N := ⟨[.root root], none, 0⟩

/-- The rows of the best node so far; none when there is no such node. -/
def bestSpan (s : Sweep N) : UInt64 :=
  match s.best with
  | some l => TreeNode.rowSpan l.node
  | none => 0

/-- The number of nodes still to visit. -/
def load (s : Sweep N) : Nat := total (s.stack.map Located.count)

/-- Visits the node `top`, with `rest` to follow after its children (one round of the loop in
`find_enclosing_context`). A node that covers the range takes the place of the best one only if it covers strictly
more rows. -/
def visit (r : LineRange) (s : Sweep N) (top : Located N) (rest : List (Located N)) :
    Checked (Sweep N) := do
  let fits ← TreeNode.spans r top.node
  return {
    stack := top.children ++ rest
    best := if fits && decide (s.bestSpan < TreeNode.rowSpan top.node) then some top else s.best
    visited := s.visited + 1 }

theorem stack_of_visit {r : LineRange} {s s' : Sweep N} {top : Located N} {rest : List (Located N)}
    (h : s.visit r top rest = .ok s') : s'.stack = top.children ++ rest := by
  cases hf : TreeNode.spans r top.node with
  | error o => simp [visit, hf, bind, Except.bind] at h
  | ok fits =>
    simp only [visit, hf, bind, Except.bind, pure, Except.pure, Except.ok.injEq] at h
    rw [← h]

/-- A visit leaves one node fewer to visit. -/
theorem load_of_visit {r : LineRange} {s s' : Sweep N} {top : Located N} {rest : List (Located N)}
    (hs : s.stack = top :: rest) (h : s.visit r top rest = .ok s') : s'.load + 1 = s.load := by
  have := Located.count_eq_children top
  simp only [load, stack_of_visit h, hs, List.map_append, total_append, List.map_cons, total]
  omega

/-- Visits all that is left to visit. -/
def run (r : LineRange) (s : Sweep N) : Checked (Sweep N) :=
  match _hs : s.stack with
  | [] => .ok s
  | top :: rest =>
    match _h : s.visit r top rest with
    | .error o => .error o
    | .ok s' => run r s'
termination_by s.load
decreasing_by have := load_of_visit _hs _h; omega

end Sweep

def noRoot : Error := ⟨.invalidInput, "syntax tree has no root node"⟩

/-- The node of a tree that encloses the range, with the way to it (`find_enclosing_context`). A tree may have no
root. -/
def enclosing? {N : Type} [TreeNode N] (root : Option N) (r : LineRange) :
    Result (Option (Located N)) := do
  match root with
  | none => .error (.reported noRoot)
  | some root =>
    let sweep ← Result.ofChecked ((Sweep.start root).run r)
    return sweep.best

end LineScope
