import LineScope.Grammar.Lexicon

/-!
# States of a parser

A state of a parser is a set of items: the productions that may be under way, each with the tokens that
may follow it. From it follows what the parser does with the next token. Where a token could be taken in
and a production be complete, or two productions be complete at once, precedences decide; what they
leave open is kept.
-/
namespace LineScope.Grammar

/-- What a parser can do with a token. -/
inductive Action where
  /-- Takes the token in and goes to the state of a numbered set of items. -/
  | shift (target : Nat)
  /-- Takes the token in and stays. -/
  | pass
  /-- Replaces the symbols of a complete item by its rule. -/
  | reduce (item : Nat)
  /-- Ends with the whole text. -/
  | accept
  deriving DecidableEq, Repr, Inhabited

/-- Items of a state by number, in order, with the tokens that may follow them. -/
abbrev Kernel := Array (Nat × TokenSet)

/-- Where a parser goes after a rule. -/
inductive Goto where
  | nowhere
  /-- To the state of a numbered set of items. -/
  | target (n : Nat)
  /-- The rule may stand anywhere, and the parser stays. -/
  | stay
  deriving DecidableEq, Repr, Inhabited

/-- What a grammar says, written out. -/
structure Tables where
  vocabulary : Vocabulary
  table : ItemTable
  firsts : Array TokenSet
  /-- What each rule in front of the dot brings into a state. -/
  additions : Array (Thunk (Array Addition))
  lexicon : Lexicon
  /-- The keywords by their text. -/
  keywords : Std.HashMap String Nat
  keywordSet : TokenSet
  /-- Tokens that may stand anywhere. -/
  extraTokens : List Nat
  /-- Rules that may stand anywhere. -/
  extraRules : List Nat
  /-- The tokens that such rules begin with, and the items after them. -/
  extraStarts : List (Nat × Kernel)
  orders : List (List Nat)

namespace Tables

def tokenCount (t : Tables) : Nat := t.vocabulary.tokens.size

/-- Stands for whatever follows a rule that may stand anywhere. -/
def afterExtra (t : Tables) : Nat := t.tokenCount

/-- The tokens that a symbol can begin with. -/
def first (t : Tables) : Symbol → TokenSet
  | .token k => .single k
  | .rule r => t.firsts.getD r 0

def item (t : Tables) (i : Nat) : Item := t.table.items.getD i default

/-- Writes out a grammar. -/
def ofRules (g : RuleSet) : Tables :=
  let vocabulary := (Vocabulary.ofRules g).nameRepeats
  let table := ItemTable.ofProductions vocabulary (vocabulary.productions g)
  let firsts := table.firsts
  let additions := (Array.range vocabulary.rules.size).map fun r =>
    Thunk.mk fun _ => table.additions firsts r
  let lexicon := Lexicon.ofTokens g.gap vocabulary.tokens
  let number (name : String) : Option Symbol := vocabulary.numbers[Rule.ref name]?
  let extraTokens := g.extras.filterMap fun name =>
    match number name with
    | some (.token k) => some k
    | _ => none
  let extraRules := g.extras.filterMap fun name =>
    match number name with
    | some (.rule r) => some r
    | _ => none
  let after := TokenSet.single vocabulary.tokens.size
  let begun : List (Nat × Nat) := extraRules.flatMap fun r =>
    (table.starts.getD r #[]).toList.filterMap fun i =>
      let item := table.items.getD i default
      match item.symbol with
      | some (.token k) => some (k, item.advanced)
      | _ => none
  let heads := (begun.map (·.1)).eraseDups.mergeSort
  let extraStarts := heads.map fun k =>
    let items := ((begun.filter (·.1 == k)).map (·.2)).eraseDups.mergeSort
    (k, (items.map fun i => (i, after)).toArray)
  let texts (i : Nat) : List String :=
    ((vocabulary.tokens[i]?.bind (·.token)).map (·.texts)).getD []
  let isKeyword (s : String) : Bool :=
    match (LexMemory.empty.token lexicon (.single vocabulary.word) (.ofText s)).2 with
    | some found => found.stop.atEnd && found.start.place.byte == 0
    | none => false
  let keywords := (List.range vocabulary.tokens.size).flatMap fun i =>
    if (texts i).all isKeyword then (texts i).map fun s => (s, i) else []
  { vocabulary, table, firsts, additions, lexicon
    keywords := Std.HashMap.ofList keywords
    keywordSet := keywords.foldl (fun set k => set ||| TokenSet.single k.2) 0
    extraTokens, extraRules, extraStarts
    orders := g.orders.map fun names => names.filterMap fun name =>
      match number name with
      | some (.rule r) => some r
      | _ => none }

/-! ## Sets of items -/

/-- For every item the tokens that may follow it in the state of some items; none follow an item that
is not in the state. -/
def closure (t : Tables) (kernel : Kernel) : Array TokenSet := Id.run do
  let mut sets : Array TokenSet := Array.replicate t.table.items.size 0
  let mut follows : Array TokenSet := Array.replicate t.additions.size 0
  let mut begun : Array Nat := #[]
  for (i, follow) in kernel do
    sets := sets.modify i (· ||| follow)
    let item := t.item i
    match item.symbol with
    | some (.rule r) =>
      let follow := match item.following with
        | some next => t.first next
        | none => follow
      if follows.getD r 0 == 0 then begun := begun.push r
      follows := follows.modify r (· ||| follow)
    | _ => pure ()
  for r in begun do
    let follow := follows.getD r 0
    match t.additions[r]? with
    | some additions =>
      for a in additions.get do
        let brought := if a.inherits then a.follow ||| follow else a.follow
        sets := sets.modify a.item (· ||| brought)
    | none => pure ()
  return sets

/-! ## Conflicts -/

/-- Compares rules by the orders of the grammar. -/
def compareOrders (a b : List Nat) : List (List Nat) → Ordering
  | [] => .eq
  | order :: orders =>
    let place (rules : List Nat) : Option Nat := order.findIdx? rules.contains
    match place a, place b with
    | some i, some j => if i < j then .gt else if j < i then .lt else compareOrders a b orders
    | _, _ => compareOrders a b orders

/-- Compares precedences, and the rules where precedences say nothing. -/
def comparePrecedence (t : Tables) (p : Option Int) (a : List Nat) (q : Option Int) (b : List Nat) :
    Ordering :=
  let p := p.getD 0
  let q := q.getD 0
  if p = 0 ∧ q = 0 then compareOrders a b t.orders else compare p q

/-- The complete items that compete for a token. -/
structure Reduction where
  items : Array Nat
  precedence : Option Int
  rules : List Nat
  left : Bool
  right : Bool
  neither : Bool
  deriving Inhabited

namespace Reduction

def empty : Reduction := ⟨#[], none, [], false, false, false⟩

/-- Adds a complete item: one of lower precedence is dropped, and one of higher precedence replaces the
others. -/
def add (t : Tables) (r : Reduction) (i : Nat) : Reduction :=
  let item := t.item i
  let rule := item.production.rule
  let put (r : Reduction) : Reduction :=
    { items := r.items.push i
      precedence := item.precedence
      rules := if r.rules.contains rule then r.rules else rule :: r.rules
      left := r.left || item.side = some .left
      right := r.right || item.side = some .right
      neither := r.neither || item.side.isNone }
  if r.items.isEmpty then put r
  else
    match t.comparePrecedence item.precedence [rule] r.precedence r.rules with
    | .gt => put empty
    | .eq => put r
    | .lt => r

end Reduction

/-- How a token is used that could be taken in while items are complete. -/
inductive Preference where
  | takeIn
  | complete
  | both
  deriving DecidableEq, Repr

/-- The items of a state that go on with a token, their first symbol apart. -/
def goingOn (t : Tables) (sets : Array TokenSet) (token : Nat) : List Nat :=
  (List.range sets.size).filter fun i =>
    sets.getD i 0 != 0 &&
    (let item := t.item i
     0 < item.dot &&
     match item.symbol with
     | some s => TokenSet.has (t.first s) token
     | none => false)

/-- Decides between taking a token in and completing items. A repetition is completed. -/
def decide (t : Tables) (sets : Array TokenSet) (token : Nat) (r : Reduction) : Preference :=
  let under := t.goingOn sets token
  let rules := (under ++ r.items.toList).map fun i => (t.item i).production.rule
  let repeats (rule : Nat) : Bool := (t.vocabulary.rules[rule]?.map (·.repeats)).getD false
  if (match rules with
      | rule :: rest => repeats rule && rest.all (· == rule)
      | [] => false) then .complete
  else
    let compared := under.map fun i =>
      let item := t.item i
      t.comparePrecedence item.precedence [item.production.rule] r.precedence r.rules
    let more := compared.contains .gt
    let less := compared.contains .lt
    if more && !less then .takeIn
    else if less && !more then .complete
    else if !more && !less then
      if r.left && !r.neither && !r.right then .complete
      else if r.right && !r.neither && !r.left then .takeIn
      else .both
    else .both

end Tables

/-! ## States -/

/-- A state of a parser. -/
structure LrState where
  /-- What is done with each token, and at the end with whatever follows an extra. -/
  actions : Array (Array Action)
  gotos : Array Goto
  /-- The sets of items that the parser can go to. -/
  targets : Array Kernel
  /-- The states of these sets, where they are known. -/
  known : Array (Option Nat)
  /-- The tokens to recognize. -/
  tokens : TokenSet
  /-- The tokens to scan for. -/
  scanned : Array Bool
  /-- Whether any token is to be scanned for. -/
  scans : Bool
  /-- Whether the state is at the end of an extra. -/
  endsExtra : Bool
  deriving Inhabited

namespace Tables

/-- Items in order, those of one number together. -/
def kernelOf (items : Array (Nat × TokenSet)) : Kernel :=
  (items.qsort fun a b => a.1 < b.1).foldl
    (fun found (i, follow) =>
      match found.back? with
      | some (j, other) => if i = j then found.pop.push (i, other ||| follow) else found.push (i, follow)
      | none => found.push (i, follow))
    #[]

/-- The state of some items. -/
def expand (t : Tables) (kernel : Kernel) : LrState := Id.run do
  let sets := t.closure kernel
  let count := t.tokenCount
  let mut reductions : Array Reduction := Array.replicate (count + 1) .empty
  let mut tokenNext : Array (Array (Nat × TokenSet)) := Array.replicate count #[]
  let mut ruleNext : Array (Array (Nat × TokenSet)) := Array.replicate t.additions.size #[]
  let mut accepts := false
  for h : i in [0 : sets.size] do
    let follow := sets[i]
    if follow != 0 then
      let item := t.item i
      match item.symbol with
      | some (.token k) => tokenNext := tokenNext.modify k (·.push (item.advanced, follow))
      | some (.rule r) => ruleNext := ruleNext.modify r (·.push (item.advanced, follow))
      | none =>
        if item.production.rule == t.vocabulary.rules.size then accepts := true
        else
          for k in [0 : count + 1] do
            if TokenSet.has follow k then
              reductions := reductions.modify k (·.add t i)
  let mut actions : Array (Array Action) := #[]
  let mut targets : Array Kernel := #[]
  for k in [0 : count + 1] do
    let reduction := reductions.getD k .empty
    let next := tokenNext.getD k #[]
    let completes := reduction.items.map Action.reduce
    if next.isEmpty then
      actions := actions.push (if k == endToken && accepts then completes.push .accept else completes)
    else
      let verdict := if reduction.items.isEmpty then .takeIn else t.decide sets k reduction
      match verdict with
      | .complete => actions := actions.push completes
      | .takeIn =>
        actions := actions.push #[.shift targets.size]
        targets := targets.push (kernelOf next)
      | .both =>
        actions := actions.push (completes.push (.shift targets.size))
        targets := targets.push (kernelOf next)
  let mut gotos : Array Goto := #[]
  for next in ruleNext do
    if next.isEmpty then gotos := gotos.push .nowhere
    else
      gotos := gotos.push (.target targets.size)
      targets := targets.push (kernelOf next)
  let endsExtra := !(actions.getD count #[]).isEmpty
  unless endsExtra do
    for (k, start) in t.extraStarts do
      if (actions.getD k #[]).isEmpty then
        actions := actions.set! k #[.shift targets.size]
        targets := targets.push start
    for k in t.extraTokens do
      if (actions.getD k #[]).isEmpty then actions := actions.set! k #[.pass]
    for r in t.extraRules do gotos := gotos.set! r .stay
  let usable (k : Nat) : Bool := !(actions.getD k #[]).isEmpty
  let mut tokens : TokenSet := 0
  for k in [0 : count] do
    if usable k then
      let token := if TokenSet.has t.keywordSet k then t.vocabulary.word else k
      tokens := tokens ||| TokenSet.single token
  let scanned := t.vocabulary.scanned.map usable
  return {
    actions, gotos, targets
    known := Array.replicate targets.size none
    tokens, scanned
    scans := scanned.contains true
    endsExtra }

def startKernel (t : Tables) : Kernel := #[(t.table.start, TokenSet.single endToken)]

end Tables

/-- The states of a parser that were met. -/
structure LrMemory where
  states : Array LrState
  numbers : Std.HashMap Kernel Nat

namespace LrMemory

/-- The number of the state of some items. -/
def number (t : Tables) (m : LrMemory) (kernel : Kernel) : LrMemory × Nat :=
  match m.numbers[kernel]? with
  | some n => (m, n)
  | none =>
    let n := m.states.size
    (⟨m.states.push (t.expand kernel), m.numbers.insert kernel n⟩, n)

/-- Only the state at the start of a text. -/
def start (t : Tables) : LrMemory := ((⟨#[], {}⟩ : LrMemory).number t t.startKernel).1

/-- The state that a numbered set of items of a state leads to. -/
def target (t : Tables) (m : LrMemory) (s n : Nat) : LrMemory × Nat :=
  let state := m.states[s]!
  match state.known.getD n none with
  | some next => (m, next)
  | none =>
    let (m, next) := m.number t (state.targets.getD n #[])
    ({ m with states := m.states.modify s fun state =>
        { state with known := state.known.set! n (some next) } }, next)

end LrMemory

end LineScope.Grammar
