import LineScope.Json.Value
import LineScope.Tree.Outline

/-!
# Outlines as JSON

An outline is written as objects, and a node without children has no member for them. It is read from
objects, whose other members are ignored, or from arrays that give the same parts in order.
-/
namespace LineScope

open Json (Value)

namespace Position

def toJson (p : Position) : Value :=
  .object [("row", .nat p.row.toNat), ("column", .nat p.column.toNat)]

def ofJson? : Value → Option Position
  | .array [row, column] => do return ⟨← row.word?, ← column.word?⟩
  | .object members => do
    let row ← members.lookup "row"
    let column ← members.lookup "column"
    return ⟨← row.word?, ← column.word?⟩
  | _ => none

end Position

mutual

def OutlineNode.toJson : OutlineNode → Value
  | ⟨kind, start, stop, children⟩ =>
    .object ([("kind", .string kind), ("start", start.toJson), ("end", stop.toJson)] ++
      match children with
      | [] => []
      | c :: cs => [("children", .array (OutlineNode.toJsons (c :: cs)))])

def OutlineNode.toJsons : List OutlineNode → List Value
  | [] => []
  | n :: ns => n.toJson :: OutlineNode.toJsons ns

end

mutual

/-- Reads a node. Only the children may be left off. -/
def OutlineNode.ofJson? : Value → Option OutlineNode
  | .array [kind, start, stop] => do
    return ⟨← kind.text?, ← Position.ofJson? start, ← Position.ofJson? stop, []⟩
  | .array [kind, start, stop, children] => do
    return ⟨← kind.text?, ← Position.ofJson? start, ← Position.ofJson? stop,
      ← OutlineNode.childrenOfJson? children⟩
  | .object members => do
    let kind ← (members.lookup "kind").bind Value.text?
    let start ← (members.lookup "start").bind Position.ofJson?
    let stop ← (members.lookup "end").bind Position.ofJson?
    let children ← OutlineNode.childrenMember? members
    return ⟨kind, start, stop, children⟩
  | _ => none

def OutlineNode.childrenOfJson? : Value → Option (List OutlineNode)
  | .array items => OutlineNode.ofJsons? items
  | _ => none

/-- Reads the children from the members of a node, where they may be missing. -/
def OutlineNode.childrenMember? : List (String × Value) → Option (List OutlineNode)
  | [] => some []
  | (key, v) :: members =>
    if key = "children" then OutlineNode.childrenOfJson? v else OutlineNode.childrenMember? members

def OutlineNode.ofJsons? : List Value → Option (List OutlineNode)
  | [] => some []
  | v :: vs => do return (← OutlineNode.ofJson? v) :: (← OutlineNode.ofJsons? vs)

end

namespace Outline

def toJson (t : Outline) : Value :=
  .object [("root", match t.root with
    | some root => root.toJson
    | none => .null)]

/-- Reads a root that may be null. -/
def rootOfJson? : Value → Option (Option OutlineNode)
  | .null => some none
  | v => (OutlineNode.ofJson? v).map some

def ofJson? : Value → Option Outline
  | .array [root] => (rootOfJson? root).map (⟨·⟩)
  | .object members =>
    match members.lookup "root" with
    | some root => (rootOfJson? root).map (⟨·⟩)
    | none => some empty
  | _ => none

end Outline

end LineScope
