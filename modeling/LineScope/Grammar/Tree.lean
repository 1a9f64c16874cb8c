import LineScope.Grammar.State

/-!
# Parse trees

The tree of a reading, with a node for every token and every production. Source trees show only part of
it: rules without nodes give their children to the node around them.
-/
namespace LineScope.Grammar

structure ParseTree where
  /-- The token, or the rule after all tokens. -/
  symbol : Nat
  /-- The complete item of the production. -/
  item : Nat
  children : List ParseTree
  /-- Where the gap in front of the node starts. -/
  before : Place
  start : Place
  stop : Place
  /-- Whether the node may stand anywhere. -/
  extra : Bool
  /-- Whether the node is a word that is a keyword somewhere. -/
  keyword : Bool
  /-- What the productions of the node weigh together. -/
  weight : Int

instance : Inhabited ParseTree := ⟨⟨0, 0, [], .start, .start, .start, false, false, 0⟩⟩

namespace ParseTree

/-- A node over children, which stands at a place if there are none. -/
def ofChildren (symbol item : Nat) (children : List ParseTree) (place : Place) : ParseTree :=
  let weight := children.foldl (fun w c => w + c.weight) 0
  let stop := match children.getLast? with
    | some last => last.stop
    | none => place
  match children with
  | [] => ⟨symbol, item, [], place, place, place, false, false, 0⟩
  | first :: _ => ⟨symbol, item, children, first.before, first.start, stop, false, false, weight⟩

mutual

def compare : ParseTree → ParseTree → Ordering
  | ⟨s, _, cs, _, _, _, _, _, _⟩, ⟨s', _, cs', _, _, _, _, _, _⟩ =>
    (Ord.compare s s').then <| (Ord.compare cs.length cs'.length).then (compareAll cs cs')

def compareAll : List ParseTree → List ParseTree → Ordering
  | [], [] => .eq
  | [], _ :: _ => .lt
  | _ :: _, [] => .gt
  | c :: cs, c' :: cs' =>
    match compare c c' with
    | .eq => compareAll cs cs'
    | o => o

end

/-- Whether the second of two readings is taken: the heavier one, and of equal ones the lesser. -/
def prefersSecond (a b : ParseTree) : Bool :=
  if a.weight ≠ b.weight then a.weight < b.weight else (compare a b).isGT

/-- Whether two nodes are readings of the same text by the same rule. -/
def sameOutside (a b : ParseTree) : Bool :=
  a.symbol == b.symbol && a.before.byte == b.before.byte && a.start.byte == b.start.byte &&
  a.stop.byte == b.stop.byte && a.children.length == b.children.length && a.extra == b.extra

end ParseTree

/-- The kind of a symbol's nodes, if it makes nodes. -/
def Tables.kind? (t : Tables) (symbol : Nat) : Option String :=
  if symbol < t.tokenCount then
    match t.vocabulary.tokens[symbol]? with
    | some entry => if entry.shown then some entry.name else none
    | none => none
  else
    match t.vocabulary.rules[symbol - t.tokenCount]? with
    | some entry => if entry.shown then some entry.name else none
    | none => none

/-- The steps of a node's production. -/
def Tables.stepsOf (t : Tables) (symbol item : Nat) : List Step :=
  if symbol < t.tokenCount then [] else (t.item item).production.steps.toList

mutual

/-- The nodes that a tree shows, in front of others. The tree is given a kind, or has its own; a tree
without a kind shows its children, which play its part unless they play one of their own. -/
def ParseTree.show (t : Tables) (kind role : Option String) : ParseTree → List SourceNode → List SourceNode
  | ⟨symbol, item, children, _, start, stop, _, _, _⟩, rest =>
    let steps := t.stepsOf symbol item
    match kind <|> t.kind? symbol with
    | some kind =>
      ⟨kind, role, start.byte, stop.byte, start.position, stop.position,
        ParseTree.showAll t none steps children []⟩ :: rest
    | none => ParseTree.showAll t role steps children rest

/-- The nodes that the children of a production show. Children that may stand anywhere are not part of
the production. -/
def ParseTree.showAll (t : Tables) (role : Option String) :
    List Step → List ParseTree → List SourceNode → List SourceNode
  | _, [], rest => rest
  | [], c :: cs, rest => ParseTree.show t none none c (ParseTree.showAll t role [] cs rest)
  | s :: ss, c :: cs, rest =>
    if c.extra then ParseTree.show t none none c (ParseTree.showAll t role (s :: ss) cs rest)
    else
      ParseTree.show t s.kind (s.role <|> role) c (ParseTree.showAll t role ss cs rest)

end

end LineScope.Grammar
