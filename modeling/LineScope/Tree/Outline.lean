import LineScope.Tree.Source

/-!
# Outlines

An outline is a tree with just what the search needs, detached from any text. It may be taken from a
source tree or made elsewhere, and it may have no root.
-/
namespace LineScope

structure OutlineNode where
  kind : String
  start : Position
  stop : Position
  children : List OutlineNode
  deriving Repr

structure Outline where
  root : Option OutlineNode
  deriving Repr

mutual

def OutlineNode.count : OutlineNode → Nat
  | ⟨_, _, _, children⟩ => 1 + OutlineNode.countAll children

def OutlineNode.countAll : List OutlineNode → Nat
  | [] => 0
  | n :: ns => n.count + OutlineNode.countAll ns

end

namespace OutlineNode

theorem countAll_eq_total (ns : List OutlineNode) : countAll ns = total (ns.map count) := by
  induction ns with
  | nil => rfl
  | cons n ns ih => simp [countAll, total, ih]

instance : TreeNode OutlineNode where
  kind := kind
  start := start
  stop := stop
  children := children
  count := count
  count_eq n := by
    cases n with
    | mk _ _ _ children => simp [count, countAll_eq_total]

/-- A node without children, from one row to another at column zero (`OutlineNode::new`). -/
def leaf (kind : String) (startRow endRow : UInt64) : OutlineNode :=
  ⟨kind, ⟨startRow, 0⟩, ⟨endRow, 0⟩, []⟩

/-- The node with other children (`with_children`). -/
def withChildren (n : OutlineNode) (children : List OutlineNode) : OutlineNode :=
  { n with children }

end OutlineNode

mutual

/-- The outline of a source node and all beneath it (`from_tree_sitter`). -/
def OutlineNode.ofSource : SourceNode → OutlineNode
  | ⟨kind, _, _, _, start, stop, children⟩ => ⟨kind, start, stop, OutlineNode.ofSources children⟩

def OutlineNode.ofSources : List SourceNode → List OutlineNode
  | [] => []
  | n :: ns => OutlineNode.ofSource n :: OutlineNode.ofSources ns

end

namespace Outline

def empty : Outline := ⟨none⟩

/-- The outline of a source tree. -/
def ofSource (t : SourceTree) : Outline := ⟨some (.ofSource t.root)⟩

/-- All nodes: each before those beneath it, children in order. -/
def nodes (t : Outline) : List (Located OutlineNode) :=
  match t.root with
  | some root => (Located.root root).listing
  | none => []

end Outline

end LineScope
