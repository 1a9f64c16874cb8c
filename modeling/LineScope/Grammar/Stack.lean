import LineScope.Grammar.Tree

/-!
# Stacks of readings

Readings that are followed side by side share what they have in common: their stacks make up one graph.
A version of the stack is a node of the graph, and its links lead to what lies beneath. Versions that
come to the same state at the same place become one.
-/
namespace LineScope.Grammar

/-- A link of the graph: a tree, and the node beneath it. -/
structure Link where
  below : Nat
  tree : ParseTree
  deriving Inhabited

/-- A node of the graph: a state of the parser at a place. -/
structure StackNode where
  state : Nat
  cursor : Cursor
  links : Array Link
  /-- What the heaviest way to the bottom weighs. -/
  weight : Int

instance : Inhabited StackNode := ⟨⟨0, ⟨.start, []⟩, #[], 0⟩⟩

abbrev Stack := Array StackNode

namespace Stack

def maxLinks : Nat := 8

/-- How many ways through the graph are followed at once. -/
def maxWays : Nat := 64

/-- A way through the graph: the node it has come to, how many symbols are still to be taken, and the
trees on it. -/
structure Way where
  node : Nat
  left : Nat
  trees : List ParseTree

/-- A way that follows a link. Trees that may stand anywhere are no symbols. -/
def Way.follow (w : Way) (l : Link) : Way :=
  ⟨l.below, if l.tree.extra then w.left else w.left - 1, l.tree :: w.trees⟩

/-- Takes symbols along the only way there is, if there is only one. -/
def takeSingle (s : Stack) : Nat → Way → Option Way
  | 0, _ => none
  | fuel + 1, w =>
    if w.left = 0 then some w
    else
      match (s.getD w.node default).links with
      | #[l] => takeSingle s fuel (w.follow l)
      | _ => none

/-- What ways lead to: the nodes, and for each the trees on the ways to it. -/
structure Ends where
  nodes : Array Nat
  trees : Array (Nat × List ParseTree)

/-- Adds the end of a way, behind others to the same node. -/
def Ends.add (e : Ends) (node : Nat) (trees : List ParseTree) : Ends :=
  match e.nodes.findIdx? (· == node) with
  | some n =>
    let last := (List.range e.trees.size).foldl
      (fun found i => if (e.trees.getD i (0, [])).1 = n then i + 1 else found) 0
    { e with trees := e.trees.extract 0 last ++ #[(n, trees)] ++ e.trees.extract last e.trees.size }
  | none => ⟨e.nodes.push node, e.trees.push (e.nodes.size, trees)⟩

/-- Ways after one more link each. A way that forks goes on by its node's first link, and the others come
after all ways. -/
def round (s : Stack) (all : Bool) (ways : List Way) (e : Ends) : List Way × Ends :=
  let (going, forked, _, e) := ways.foldl
    (fun (going, forked, count, e) w =>
      let links := (s.getD w.node default).links
      if !all && w.left = 0 then (going, forked, count, e.add w.node w.trees)
      else
        match links[0]? with
        | none => (going, forked, count, if all then e.add w.node w.trees else e)
        | some l =>
          let others := (links.extract 1 links.size).toList.map w.follow
          let others := others.take (maxWays - count)
          (w.follow l :: going, others.reverse ++ forked, count + others.length, e))
    ([], [], ways.length, e)
  (going.reverse ++ forked.reverse, e)

/-- Follows ways to their ends. -/
def followAll (s : Stack) (all : Bool) : Nat → List Way → Ends → Ends
  | 0, _, e => e
  | _, [], e => e
  | fuel + 1, ways, e =>
    let (ways, e) := round s all ways e
    followAll s all fuel ways e

/-- Takes a number of symbols from the top of the stack at a node. -/
def take (s : Stack) (node count : Nat) : Ends :=
  match takeSingle s (s.size + 1) ⟨node, count, []⟩ with
  | some w => ⟨#[w.node], #[(0, w.trees)]⟩
  | none => followAll s false (s.size + 1) [⟨node, count, []⟩] ⟨#[], #[]⟩

/-- Takes everything from the stack at a node. -/
def takeAll (s : Stack) (node : Nat) : Ends :=
  followAll s true (s.size + 1) [⟨node, 0, []⟩] ⟨#[], #[]⟩

/-- Puts a tree on a node. -/
def push (s : Stack) (node : Nat) (tree : ParseTree) (state : Nat) (cursor : Cursor) : Stack × Nat :=
  let weight := (s.getD node default).weight + tree.weight
  let top := s.size
  (Array.push s ⟨state, cursor, #[⟨node, tree⟩], weight⟩, top)

/-- What to do with a link that is to be added. -/
inductive Fate where
  /-- It is there already. -/
  | drop
  /-- It takes the place of a lighter one. -/
  | replace (i : Nat)
  /-- It goes to a node that is like another one, which takes over its links. -/
  | merge (i : Nat)
  | append

/-- What to do with a link that is to be added to a node. -/
def fate (s : Stack) (node : Nat) (l : Link) : Fate :=
  if l.below = node then .drop
  else
    let links := (s.getD node default).links
    let same := links.findIdx? fun k =>
      k.tree.sameOutside l.tree &&
      (k.below == l.below ||
        (let a := s.getD k.below default
         let b := s.getD l.below default
         a.state == b.state && a.cursor.place.byte == b.cursor.place.byte))
    match same with
    | some i =>
      let k := links.getD i default
      if k.below = l.below then if k.tree.weight < l.tree.weight then .replace i else .drop
      else .merge i
    | none => if links.size = maxLinks then .drop else .append

def addLink : Nat → Stack → Nat → Link → Stack
  | 0, s, _, _ => s
  | fuel + 1, s, node, l =>
    let weight := (s.getD l.below default).weight + l.tree.weight
    match fate s node l with
    | .drop => s
    | .replace i =>
      s.modify node fun n =>
        { n with links := n.links.modify i ({ · with tree := l.tree }), weight }
    | .merge i =>
      let below := ((s.getD node default).links.getD i default).below
      let s := (s.getD l.below default).links.foldl (fun s k => addLink fuel s below k) s
      s.modify node fun n => { n with weight := max n.weight weight }
    | .append =>
      s.modify node fun n => { n with links := n.links.push l, weight := max n.weight weight }

def join (s : Stack) (a b : Nat) : Stack :=
  (s.getD b default).links.foldl (fun s l => addLink (s.size + 1) s a l) s

end Stack

end LineScope.Grammar
