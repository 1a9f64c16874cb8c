import LineScope.Tree.Outline

/-!
# Building and changing outlines

An outline can be given as rows that each name an earlier row to hang under, and changed a step at a
time at a node reached by child indices.
-/
namespace LineScope

/-- A node of an outline given as a row: the row it hangs under, and its own data. -/
structure OutlineRow where
  parent : Nat
  kind : String
  start : Position
  stop : Position
  deriving Repr

namespace Outline

/-- Hangs nodes under their parents, the last row first; `hung` holds for each row the children it has
so far. -/
def hang : List (OutlineRow × Nat) → Array (List OutlineNode) → Option (Array (List OutlineNode))
  | [], hung => some hung
  | (row, index) :: rows, hung =>
    if index = 0 then some hung
    else if row.parent < index then
      let node : OutlineNode := ⟨row.kind, row.start, row.stop, hung.getD index []⟩
      hang rows (hung.modify row.parent (node :: ·))
    else none

/-- The outline of rows: the first row is the root, and every other one hangs under an earlier row.
Rows under the same row keep their order. -/
def ofRows? : List OutlineRow → Option Outline
  | [] => some empty
  | root :: rows => do
    let all := root :: rows
    let hung ← hang all.zipIdx.reverse (Array.replicate all.length [])
    return ⟨some ⟨root.kind, root.start, root.stop, hung.getD 0 []⟩⟩

end Outline

/-- Applies a change to the node at the end of a path of child indices. -/
def OutlineNode.modify? (change : OutlineNode → OutlineNode) :
    List Nat → OutlineNode → Option OutlineNode
  | [], n => some (change n)
  | i :: path, n => do
    let child ← n.children[i]?
    let changed ← modify? change path child
    return n.withChildren (n.children.set i changed)

namespace Outline

inductive Edit where
  /-- Drop everything. -/
  | empty
  /-- Start over with a root alone. -/
  | root (node : OutlineNode)
  /-- Append a child. -/
  | push (path : List Nat) (node : OutlineNode)
  /-- Put a node in the place of another, which becomes its only child. -/
  | wrap (path : List Nat) (node : OutlineNode)
  /-- Move a node to other rows. -/
  | move (path : List Nat) (startRow endRow : UInt64)
  /-- Drop a node's children. -/
  | clear (path : List Nat)

def modify? (change : OutlineNode → OutlineNode) (path : List Nat) (t : Outline) :
    Option Outline := do
  let root ← t.root
  let changed ← root.modify? change path
  return ⟨some changed⟩

/-- The changed outline, where the node to change exists. -/
def edit? (t : Outline) : Edit → Option Outline
  | .empty => some empty
  | .root node => some ⟨some node⟩
  | .push path node => t.modify? (fun n => n.withChildren (n.children ++ [node])) path
  | .wrap path node => t.modify? (fun n => node.withChildren [n]) path
  | .move path startRow endRow =>
    t.modify? (fun n => { n with start.row := startRow, stop.row := endRow }) path
  | .clear path => t.modify? (·.withChildren []) path

end Outline

end LineScope
