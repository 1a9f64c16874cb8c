import LineScope.Grammar.Production

/-!
# Items

An item is a production together with how far a reading of it has come. Sets of tokens are numbers
whose bits stand for the tokens.
-/
namespace LineScope.Grammar

/-! ## Sets of tokens -/

abbrev TokenSet := Nat

namespace TokenSet

def single (t : Nat) : TokenSet := 1 <<< t

def has (s : TokenSet) (t : Nat) : Bool := s.testBit t

/-- The tokens below a bound that are in a set, in order. -/
def toList (s : TokenSet) (bound : Nat) : List Nat := (List.range bound).filter s.has

end TokenSet

/-! ## Order of items -/

/-- A production and the number of its symbols that were read. -/
structure RawItem where
  production : Production
  dot : Nat

namespace RawItem

/-- The step before the dot. -/
def before? (i : RawItem) : Option Step := if i.dot = 0 then none else i.production.steps[i.dot - 1]?

/-- The precedence of what was read last. -/
def precedence (i : RawItem) : Option Int := i.before?.bind (·.precedence)

/-- The side to which what was read last groups. -/
def side (i : RawItem) : Option Side := i.before?.bind (·.side)

end RawItem

def compareOption {α : Type} (compare : α → α → Ordering) : Option α → Option α → Ordering
  | none, none => .eq
  | none, some _ => .lt
  | some _, none => .gt
  | some a, some b => compare a b

def compareText (a b : String) : Ordering :=
  if a = b then .eq else if a < b then .lt else .gt

/-- The number of a side, in order. -/
def Side.number : Side → Nat
  | .left => 0
  | .right => 1

def Symbol.compare : Symbol → Symbol → Ordering
  | .token a, .token b => Ord.compare a b
  | .token _, .rule _ => .lt
  | .rule _, .token _ => .gt
  | .rule a, .rule b => Ord.compare a b

/-- Compares what steps say of nodes. -/
def Step.compareMarks (a b : Step) : Ordering :=
  (compareOption compareText a.kind b.kind).then (compareOption compareText a.role b.role)

def Step.compare (a b : Step) : Ordering :=
  (a.symbol.compare b.symbol).then <|
  (compareOption Ord.compare a.precedence b.precedence).then <|
  (compareOption (fun x y => Ord.compare x.number y.number) a.side b.side).then <|
  a.compareMarks b

namespace RawItem

/-- Compares the steps of two items from a number on. Of steps that were read only the marks count,
and the symbols where `strict` says so. -/
def compareSteps (strict : Bool) (dot : Nat) : Nat → List Step → List Step → Ordering
  | _, [], [] => .eq
  | _, [], _ :: _ => .lt
  | _, _ :: _, [] => .gt
  | i, a :: as, b :: bs =>
    let here :=
      if i < dot then (a.compareMarks b).then (if strict then a.symbol.compare b.symbol else .eq)
      else a.compare b
    here.then (compareSteps strict dot (i + 1) as bs)

/-- Whether a rule without a node that gives roles to nodes was read. -/
def inherits (hasRoles : Nat → Bool) (i : RawItem) : Bool :=
  (i.production.steps.extract 0 i.dot).any fun s =>
    match s.symbol with
    | .rule r => hasRoles r
    | .token _ => false

def compare (hasRoles : Nat → Bool) (a b : RawItem) : Ordering :=
  (Ord.compare a.dot b.dot).then <|
  (Ord.compare a.production.rule b.production.rule).then <|
  (Ord.compare a.production.weight b.production.weight).then <|
  (Ord.compare a.production.steps.size b.production.steps.size).then <|
  (compareOption Ord.compare a.precedence b.precedence).then <|
  (compareOption (fun x y => Ord.compare x.number y.number) a.side b.side).then <|
  compareSteps (a.inherits hasRoles || b.inherits hasRoles) a.dot 0
    a.production.steps.toList b.production.steps.toList

end RawItem

/-! ## Numbered items -/

/-- An item by number. -/
structure Item where
  production : Production
  dot : Nat
  /-- The symbol after the dot. -/
  symbol : Option Symbol
  /-- The symbol after that. -/
  following : Option Symbol
  /-- The item with one more symbol read. -/
  advanced : Nat
  precedence : Option Int
  side : Option Side

instance : Inhabited Item := ⟨⟨⟨0, #[], 0⟩, 0, none, none, 0, none, none⟩⟩

/-- The items of a grammar in order, and for each rule those at the start of its productions. -/
structure ItemTable where
  items : Array Item
  starts : Array (Array Nat)
  /-- The item at the start of a text. -/
  start : Nat

/-- Which rules make no node but give roles to nodes. -/
def rolesOf (v : Vocabulary) (productions : Array Production) : Array Bool := Id.run do
  let hidden (r : Nat) : Bool := (v.rules[r]?.map (!·.shown)).getD false
  let mut has := Array.replicate (v.rules.size + 1) false
  for _ in v.rules do
    let mut changed := false
    for p in productions do
      unless has.getD p.rule false do
        let gives := p.steps.any fun s =>
          s.role.isSome ||
          match s.symbol with
          | .rule r => hidden r && has.getD r false
          | .token _ => false
        if gives then
          has := has.set! p.rule true
          changed := true
    unless changed do return has.mapIdx fun r b => b && hidden r
  return has.mapIdx fun r b => b && hidden r

namespace ItemTable

/-- Numbers the items of productions. -/
def ofProductions (v : Vocabulary) (productions : Array Production) : ItemTable := Id.run do
  let roles := rolesOf v productions
  let hasRoles (r : Nat) : Bool := roles.getD r false
  let mut raw : Array (RawItem × Nat) := #[]
  let mut offsets : Array Nat := #[]
  for p in productions do
    offsets := offsets.push raw.size
    for dot in [0 : p.steps.size + 1] do
      raw := raw.push (⟨p, dot⟩, raw.size)
  let sorted := raw.qsort fun a b => (RawItem.compare hasRoles a.1 b.1).isLT
  -- Equal items share a number.
  let mut number := Array.replicate raw.size 0
  let mut chosen : Array (RawItem × Nat) := #[]
  for (item, i) in sorted do
    let same := match chosen.back? with
      | some (other, _) => (RawItem.compare hasRoles other item).isEq
      | none => false
    unless same do chosen := chosen.push (item, i)
    number := number.set! i (chosen.size - 1)
  let items := chosen.map fun (item, i) =>
    let steps := item.production.steps
    { production := item.production
      dot := item.dot
      symbol := steps[item.dot]?.map (·.symbol)
      following := steps[item.dot + 1]?.map (·.symbol)
      advanced := if item.dot < steps.size then number.getD (i + 1) 0 else 0
      precedence := item.precedence
      side := item.side : Item }
  let mut starts : Array (Array Nat) := Array.replicate (v.rules.size + 1) #[]
  for h : i in [0 : productions.size] do
    let item := number.getD (offsets.getD i 0) 0
    starts := starts.modify productions[i].rule fun s => if s.contains item then s else s.push item
  return { items, starts, start := (starts.getD v.rules.size #[]).getD 0 0 }

/-- The tokens that a rule can begin with, for every rule. -/
def firsts (t : ItemTable) : Array TokenSet := Id.run do
  let mut sets : Array TokenSet := Array.replicate t.starts.size 0
  for _ in t.starts do
    let mut changed := false
    for h : r in [0 : t.starts.size] do
      let mut set := sets.getD r 0
      for i in t.starts[r] do
        match t.items[i]!.symbol with
        | some (.token k) => set := set ||| TokenSet.single k
        | some (.rule k) => set := set ||| sets.getD k 0
        | none => pure ()
      if set != sets.getD r 0 then
        sets := sets.set! r set
        changed := true
    unless changed do return sets
  return sets

end ItemTable

/-- What a rule in front of the dot brings into a set of items: an item at the start of a production,
the tokens that can follow it in any case, and whether what follows the rule can follow it too. -/
structure Addition where
  item : Nat
  follow : TokenSet
  inherits : Bool

namespace ItemTable

/-- What can follow each rule that a rule can begin with. -/
def leftmost (t : ItemTable) (firsts : Array TokenSet) (rule : Nat) :
    Std.HashMap Nat (TokenSet × Bool) := Id.run do
  let first : Symbol → TokenSet
    | .token k => .single k
    | .rule k => firsts.getD k 0
  let mut found : Std.HashMap Nat (TokenSet × Bool) := {}
  let mut pending : Array (Nat × TokenSet × Bool) := #[(rule, 0, true)]
  -- Every round of the loop takes one entry, and an entry is made only when a set grew.
  for _ in [0 : 1000000] do
    match pending.back? with
    | none => return found
    | some (r, follow, inherits) =>
      pending := pending.pop
      let known := found[r]?
      let (oldFollow, oldInherits) := known.getD (0, false)
      let newFollow := oldFollow ||| follow
      let newInherits := oldInherits || inherits
      if known.isNone || newFollow != oldFollow || newInherits != oldInherits then
        found := found.insert r (newFollow, newInherits)
        for i in t.starts.getD r #[] do
          let item := t.items[i]!
          match item.symbol with
          | some (.rule k) =>
            match item.following with
            | none => pending := pending.push (k, newFollow, newInherits)
            | some next => pending := pending.push (k, first next, false)
          | _ => pure ()
  return found

/-- What a rule in front of the dot brings into a set of items. -/
def additions (t : ItemTable) (firsts : Array TokenSet) (rule : Nat) : Array Addition :=
  (t.leftmost firsts rule).fold
    (fun found r (follow, inherits) =>
      (t.starts.getD r #[]).foldl (fun found item => found.push ⟨item, follow, inherits⟩) found)
    #[]

end ItemTable

end LineScope.Grammar
