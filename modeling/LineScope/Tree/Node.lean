import LineScope.LineRange
import LineScope.Span

/-!
# Nodes of a tree

What the search needs to know of a tree's nodes: a kind, where the node starts and stops, and its
children in order. Every node has a finite number of nodes beneath it, which bounds each walk.
-/
namespace LineScope

def total : List Nat → Nat
  | [] => 0
  | n :: ns => n + total ns

theorem total_append (xs ys : List Nat) : total (xs ++ ys) = total xs + total ys := by
  induction xs with
  | nil => simp [total]
  | cons x xs ih => simp [total, ih, Nat.add_assoc]

/-- A place in a text, its row and column counted from zero. -/
structure Position where
  row : UInt64
  column : UInt64
  deriving DecidableEq, Repr

/-- A type of tree nodes. -/
class TreeNode (N : Type) where
  /-- What the grammar calls the node. -/
  kind : N → String
  /-- The place of the node's first character. -/
  start : N → Position
  /-- The place after the node's last character. -/
  stop : N → Position
  /-- The node's children, in source order. -/
  children : N → List N
  /-- The number of nodes at and beneath the node. -/
  count : N → Nat
  /-- A node counts itself and what its children count. -/
  count_eq (n : N) : count n = 1 + total ((children n).map count)

namespace TreeNode

variable {N : Type} [TreeNode N]

/-- The line of the node's first character, counted from one (`start_line`). -/
def startLine (n : N) : Checked UInt64 := next64 (start n).row

/-- The line of the place after the node, counted from one (`end_line`). -/
def endLine (n : N) : Checked UInt64 := next64 (stop n).row

/-- How many rows lie between the node's start and its stop; by this candidates are ranked (`row_span`). A node on
one row has none, and neither has one that stops before it starts. -/
def rowSpan (n : N) : UInt64 := distance64 (start n).row (stop n).row

/-- Whether the node's lines cover the range at both ends. The end line is not computed for a node that
starts too late. -/
def spans (r : LineRange) (n : N) : Checked Bool := do
  let first ← startLine n
  if first ≤ r.first then
    let last ← endLine n
    return decide (r.last ≤ last)
  else
    return false

/-- The node's place in 32-bit words, rows and columns counted from one (`node_span`). A node that would stop before
it starts is given one column. -/
def span (n : N) : Checked Span := do
  let startLine ← next32 (start n).row.toUInt32
  let startColumn ← next32 (start n).column.toUInt32
  let endLine ← next32 (stop n).row.toUInt32
  let endColumn ← next32 (stop n).column.toUInt32
  match Span.between? startLine startColumn endLine endColumn with
  | some span => return span
  | none =>
    let after ← next32 startColumn
    return { startLine, startColumn, endLine := startLine, endColumn := after }

end TreeNode

/-- A node together with the way to it: the child indices from the root, the last one first. -/
structure Located (N : Type) where
  trail : List Nat
  node : N
  deriving DecidableEq, Repr

namespace Located

variable {N : Type}

def root (n : N) : Located N := ⟨[], n⟩

/-- The child indices from the root to the node. -/
def path (l : Located N) : List Nat := l.trail.reverse

variable [TreeNode N]

def children (l : Located N) : List (Located N) :=
  (TreeNode.children l.node).zipIdx.map fun c => ⟨c.2 :: l.trail, c.1⟩

def count (l : Located N) : Nat := TreeNode.count l.node

theorem map_node_children (l : Located N) : l.children.map (·.node) = TreeNode.children l.node := by
  simp [children, Function.comp_def, List.zipIdx_map_fst]

theorem count_eq_children (l : Located N) : l.count = 1 + total (l.children.map count) := by
  have h : l.children.map count = (TreeNode.children l.node).map TreeNode.count := by
    rw [← map_node_children l, List.map_map]
    rfl
  rw [h]
  exact TreeNode.count_eq l.node

theorem le_total_of_mem {x : Nat} {xs : List Nat} (h : x ∈ xs) : x ≤ total xs := by
  induction xs with
  | nil => cases h
  | cons y ys ih =>
    rw [total]
    rcases List.mem_cons.mp h with rfl | h
    · exact Nat.le_add_right _ _
    · exact Nat.le_trans (ih h) (Nat.le_add_left _ _)

theorem count_lt_of_mem {l c : Located N} (h : c ∈ l.children) : c.count < l.count := by
  have hc : c.count ≤ total (l.children.map count) :=
    le_total_of_mem (List.mem_map_of_mem h)
  have := count_eq_children l
  omega

/-- The located node and all beneath it: each node before its children's listings, children in
order. -/
def listing (l : Located N) : List (Located N) :=
  l :: l.children.attach.flatMap fun c => listing c.1
termination_by l.count
decreasing_by exact count_lt_of_mem c.2

end Located

end LineScope
