import LineScope.Tree.Node

/-!
# Source trees

The tree a grammar gives for a source text. Every token of the text is a node, so keywords and
punctuation are children too; a child may play a named part in its parent.
-/
namespace LineScope

/-- A node of a source tree: the bytes `first` up to `last` of the text, from `start` to `stop`. -/
structure SourceNode where
  kind : String
  /-- The part the node plays in its parent, if that part has a name. -/
  role : Option String
  first : Nat
  last : Nat
  start : Position
  stop : Position
  children : List SourceNode
  deriving Repr

mutual

def SourceNode.count : SourceNode → Nat
  | ⟨_, _, _, _, _, _, children⟩ => 1 + SourceNode.countAll children

def SourceNode.countAll : List SourceNode → Nat
  | [] => 0
  | n :: ns => n.count + SourceNode.countAll ns

end

namespace SourceNode

theorem countAll_eq_total (ns : List SourceNode) : countAll ns = total (ns.map count) := by
  induction ns with
  | nil => rfl
  | cons n ns ih => simp [countAll, total, ih]

instance : TreeNode SourceNode where
  kind := kind
  start := start
  stop := stop
  children := children
  count := count
  count_eq n := by
    cases n with
    | mk _ _ _ _ _ _ children => simp [count, countAll_eq_total]

/-- The child that plays a part. -/
def child? (role : String) (n : SourceNode) : Option SourceNode :=
  n.children.find? (·.role == some role)

/-- The bytes of the text that the node covers. The node's places must be places of the text, and in order. -/
def bytes (n : SourceNode) (content : List UInt8) : Result (List UInt8) :=
  if n.first ≤ n.last ∧ n.last ≤ content.length then
    .ok ((content.drop n.first).take (n.last - n.first))
  else .error (.outside ⟨n.first, n.last, content.length⟩)

end SourceNode

structure SourceTree where
  root : SourceNode
  deriving Repr

end LineScope
