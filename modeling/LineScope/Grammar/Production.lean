import LineScope.Grammar.Rule
import Std.Data.HashMap

/-!
# Productions

The rules of a grammar written out as productions: a rule on the left, and on the right a row of symbols
with their marks. Repetitions become rules of their own, which say that a repetition is its body or two
repetitions.
-/
namespace LineScope.Grammar

/-- A token or a rule, by number. -/
inductive Symbol where
  | token (i : Nat)
  | rule (i : Nat)
  deriving DecidableEq, Repr

/-- A symbol of a production with its marks. -/
structure Step where
  symbol : Symbol
  precedence : Option Int
  side : Option Side
  kind : Option String
  role : Option String
  deriving DecidableEq, Repr

structure Production where
  rule : Nat
  steps : Array Step
  weight : Int
  deriving DecidableEq, Repr

structure TokenEntry where
  name : String
  /-- Whether the token makes a node. -/
  shown : Bool
  /-- How the token is recognized; a scanned one is not. -/
  token : Option Token
  /-- The place of the token among the recognized ones, in the order in which the grammar names them. -/
  order : Nat

structure RuleEntry where
  name : String
  /-- Whether the rule makes a node. -/
  shown : Bool
  /-- Whether the rule stands for a repetition. -/
  repeats : Bool
  body : Rule

/-- The number of the token at the end of a text. -/
def endToken : Nat := 0

/-- Whether a name is that of something without a node of its own. -/
def isHiddenName (name : String) : Bool := name.startsWith "_"

/-! ## Tokens -/

namespace Rule

mutual

/-- The tokens that a rule names itself, in order. -/
def leaves : Rule → List Rule
  | .text s => [.text s]
  | .token name => [.token name]
  | .seq parts => leavesAll parts
  | .choice parts => leavesAll parts
  | .many1 body => leaves body
  | .marked _ body => leaves body
  | .blank => []
  | .ref _ => []

/-- The tokens that rules name themselves. -/
def leavesAll : List Rule → List Rule
  | [] => []
  | r :: rs => leaves r ++ leavesAll rs

end

/-- Whether a rule is only a token. -/
def isLeaf : Rule → Bool
  | .text _ => true
  | .token _ => true
  | _ => false

end Rule

/-- The tokens and rules of a grammar by number, and the numbers by name. -/
structure Vocabulary where
  tokens : Array TokenEntry
  rules : Array RuleEntry
  /-- The token or rule that a part of a rule stands for. -/
  numbers : Std.HashMap Rule Symbol
  /-- The tokens of the scanner's numbers. -/
  scanned : Array Nat
  word : Nat

namespace Vocabulary

/-- The description of a token that rules name. -/
def describe (g : RuleSet) : Rule → Token
  | .token name => (g.tokens.lookup name).getD (.ofText name)
  | .text s => .ofText s
  | _ => .ofText ""

/-- The name of a token that no rule gives a name to, and whether it makes a node. -/
def anonymous (token : Token) : String × Bool :=
  match token.literal with
  | some s => (s, true)
  | none => ("", false)

/-- Numbers the tokens and rules of a grammar. The token at the end of the text comes first, then the
one that keywords look like, and scanned tokens come last. A rule that is only a token, and the only one
to name it, is that token; but a rule without a node does not hide the node of a given text. -/
def ofRules (g : RuleSet) : Vocabulary := Id.run do
  let mut counts : Std.HashMap Rule Nat := {}
  let mut leaves : Array Rule := #[]
  for leaf in g.rules.flatMap (fun r => r.2.leaves) ++ Rule.leavesAll g.scanned do
    unless counts.contains leaf do leaves := leaves.push leaf
    counts := counts.insert leaf (counts.getD leaf 0 + 1)
  -- Rules that are tokens give their names to them.
  let mut names : Std.HashMap Rule String := {}
  let mut rules : Array RuleEntry := #[]
  let mut first := true
  for (name, body) in g.rules do
    let shown := !(isHiddenName name || g.unnamed.contains name)
    let hides := !shown && (describe g body).literal.isSome
    if !first && body.isLeaf && counts.getD body 0 == 1 && !hides then
      names := names.insert body name
    else
      rules := rules.push ⟨name, shown, false, body⟩
    first := false
  let entry (leaf : Rule) (order : Nat) : TokenEntry :=
    let token := describe g leaf
    match names[leaf]? with
    | some name => ⟨name, !isHiddenName name, some token, order⟩
    | none =>
      let (name, shown) := anonymous token
      ⟨name, shown, some token, order⟩
  let isWord (leaf : Rule) : Bool := names[leaf]? == some g.word
  let mut tokens : Array TokenEntry := #[⟨"end", false, none, 0⟩]
  let mut numbers : Std.HashMap Rule Symbol := {}
  for ahead in [true, false] do
    for h : i in [0 : leaves.size] do
      let leaf := leaves[i]
      if isWord leaf == ahead then
        numbers := numbers.insert leaf (.token tokens.size)
        if let some name := names[leaf]? then
          numbers := numbers.insert (.ref name) (.token tokens.size)
        tokens := tokens.push (entry leaf i)
  for h : i in [0 : rules.size] do
    numbers := numbers.insert (.ref rules[i].name) (.rule i)
  let mut scanned : Array Nat := #[]
  for r in g.scanned do
    match numbers[r]? with
    | some (.token i) => scanned := scanned.push i
    | _ =>
      let name := match r with
        | .ref name => name
        | _ => ""
      numbers := numbers.insert r (.token tokens.size)
      scanned := scanned.push tokens.size
      tokens := tokens.push ⟨name, !isHiddenName name, none, leaves.size⟩
  return { tokens, rules, numbers, scanned, word := 1 }

end Vocabulary

/-! ## Repetitions -/

/-- Rules that were made for repetitions, and what each of them repeats. -/
structure Repetitions where
  rules : Array RuleEntry
  names : Std.HashMap Rule String

namespace Rule

/-- A repetition by name: its body, or two of it. -/
def twofold (name : String) (body : Rule) : Rule := any [.seq [.ref name, .ref name], body]

mutual

/-- Replaces repetitions by rules of their own, one for all repetitions of the same body. -/
def nameRepeats : Rule → StateM Repetitions Rule
  | .seq parts => return .seq (← nameRepeatsAll parts)
  | .choice parts => return .choice (← nameRepeatsAll parts)
  | .marked marks body => return .marked marks (← nameRepeats body)
  | .many1 body => do
    let body ← nameRepeats body
    let made ← get
    match made.names[body]? with
    | some name => return .ref name
    | none =>
      let name := "_repeat " ++ toString made.rules.size
      set (σ := Repetitions)
        ⟨made.rules.push ⟨name, false, true, twofold name body⟩, made.names.insert body name⟩
      return .ref name
  | .blank => return .blank
  | .text s => return .text s
  | .token name => return .token name
  | .ref name => return .ref name

def nameRepeatsAll : List Rule → StateM Repetitions (List Rule)
  | [] => return []
  | r :: rs => do
    let r ← nameRepeats r
    return r :: (← nameRepeatsAll rs)

end

end Rule

/-- A rule with its repetitions replaced. A rule without a node that is nothing but a repetition stands
for that repetition itself. -/
def RuleEntry.nameRepeats (r : RuleEntry) : StateM Repetitions RuleEntry := do
  match r.shown, r.body with
  | false, .many1 body =>
    return { r with repeats := true, body := .twofold r.name (← body.nameRepeats) }
  | _, body => return { r with body := ← body.nameRepeats }

/-- Writes repetitions as rules, which come after the others. -/
def Vocabulary.nameRepeats (v : Vocabulary) : Vocabulary :=
  let (rules, made) := (v.rules.mapM RuleEntry.nameRepeats).run ⟨#[], {}⟩
  let numbers := (List.range made.rules.size).foldl
    (fun numbers i =>
      match made.rules[i]? with
      | some r => numbers.insert (.ref r.name) (.rule (rules.size + i))
      | none => numbers)
    v.numbers
  { v with rules := rules ++ made.rules, numbers }

/-! ## Writing out -/

namespace Rule

mutual

def readings : Rule → List Rule
  | .seq parts => readingsSeq parts [.blank]
  | .choice parts => readingsAny parts
  | .marked marks body => (readings body).map (.marked marks)
  | .many1 body => [.many1 body]
  | .blank => [.blank]
  | .text s => [.text s]
  | .token name => [.token name]
  | .ref name => [.ref name]

/-- The readings of rules one after the other, each added to what came before. -/
def readingsSeq : List Rule → List Rule → List Rule
  | [], done => done
  | r :: rs, done =>
    let next := readings r
    readingsSeq rs (done.flatMap fun d => next.map fun n => .seq [d, n])

/-- The readings of any of the rules. -/
def readingsAny : List Rule → List Rule
  | [] => []
  | r :: rs => readings r ++ readingsAny rs

end

end Rule

/-- A production in the making: its steps so far, its weight, and whether something was added. -/
structure Draft where
  steps : Array Step
  weight : Int
  added : Bool

namespace Draft

def changeLast (d : Draft) (f : Step → Step) : Draft :=
  { d with steps := d.steps.modify (d.steps.size - 1) f }

/-- Adds a symbol under marks. -/
def push (d : Draft) (marks : Marks) (symbol : Symbol) : Draft :=
  { d with
    steps := d.steps.push ⟨symbol, marks.precedence, marks.side, marks.kind, marks.role⟩
    added := true }

end Draft

/-- The marks of a rule inside another with marks. -/
def Marks.inside (inner outer : Marks) : Marks :=
  ⟨inner.precedence <|> outer.precedence, inner.side <|> outer.side, 0,
    inner.kind <|> outer.kind, inner.role <|> outer.role⟩

mutual

/-- Adds the symbols of a reading to a draft. What follows the last symbol under a precedence is no
longer under it, so unless the reading ends there that symbol has the precedence around it. -/
def Draft.add (numbers : Std.HashMap Rule Symbol) (marks : Marks) (last : Bool) :
    Rule → Draft → Draft
  | .seq parts, d => Draft.addAll numbers marks last parts { d with added := false }
  | .marked own body, d =>
    let weight := if own.weight.natAbs > d.weight.natAbs then own.weight else d.weight
    let d := Draft.add numbers (own.inside marks) last body { d with weight, added := false }
    if d.added && !last then
      let d := if own.precedence.isSome
        then d.changeLast ({ · with precedence := marks.precedence }) else d
      if own.side.isSome then d.changeLast ({ · with side := marks.side }) else d
    else d
  | .text s, d => Draft.addLeaf numbers marks (.text s) d
  | .token name, d => Draft.addLeaf numbers marks (.token name) d
  | .ref name, d => Draft.addLeaf numbers marks (.ref name) d
  | .blank, d => { d with added := false }
  | .choice _, d => { d with added := false }
  | .many1 _, d => { d with added := false }

/-- Adds the symbol of a token or a named rule. -/
def Draft.addLeaf (numbers : Std.HashMap Rule Symbol) (marks : Marks) (leaf : Rule) (d : Draft) :
    Draft :=
  match numbers[leaf]? with
  | some symbol => d.push marks symbol
  | none => { d with added := false }

/-- Adds the symbols of readings one after the other. -/
def Draft.addAll (numbers : Std.HashMap Rule Symbol) (marks : Marks) (last : Bool) :
    List Rule → Draft → Draft
  | [], d => d
  | r :: rs, d =>
    let before := d.added
    let d := Draft.add numbers marks (rs.isEmpty && last) r d
    Draft.addAll numbers marks last rs { d with added := before || d.added }

end

namespace Vocabulary

def productionsOf (v : Vocabulary) (i : Nat) (r : RuleEntry) : List Production :=
  let drafts := r.body.readings.map fun reading => Draft.add v.numbers .none true reading ⟨#[], 0, false⟩
  (drafts.map fun d => (⟨i, d.steps, d.weight⟩ : Production)).eraseDups

/-- A production with one of its steps replaced by the steps of another. The symbols put in take over
the marks of the one they replace, and the last of them its precedence unless it has one. -/
def splice (p : Production) (index : Nat) (old : Step) (q : Production) : Production :=
  let put := q.steps.map fun s => { s with kind := old.kind <|> s.kind, role := old.role <|> s.role }
  let put := put.modify (put.size - 1) fun s =>
    { s with precedence := s.precedence <|> old.precedence, side := s.side <|> old.side }
  { p with
    steps := p.steps.extract 0 index ++ put ++ p.steps.extract (index + 1) p.steps.size
    weight := if q.weight.natAbs > p.weight.natAbs then q.weight else p.weight }

/-- Writes out inlined rules in a production, a number of times at most. -/
def writeOut (inlined : Nat → Option (List Production)) : Nat → Production → List Production
  | 0, p => [p]
  | fuel + 1, p =>
    let found := (List.range p.steps.size).findSome? fun i =>
      match p.steps[i]? with
      | some step =>
        match step.symbol with
        | .rule r => (inlined r).map fun qs => (i, step, qs)
        | .token _ => none
      | none => none
    match found with
    | some (i, step, qs) => qs.flatMap fun q => writeOut inlined fuel (splice p i step q)
    | none => [p]

/-- The productions of a grammar, those of inlined rules apart. After the last rule's comes one that
says that a text is what the first rule says. -/
def productions (v : Vocabulary) (g : RuleSet) : Array Production :=
  let rules := v.rules.toList.zipIdx
  let written := (rules.map fun (r, i) => v.productionsOf i r).toArray
  let inlined (i : Nat) : Option (List Production) :=
    match v.rules[i]? with
    | some r => if g.inlined.contains r.name then written[i]? else none
    | none => none
  let kept := rules.flatMap fun (r, i) =>
    if g.inlined.contains r.name then []
    else ((written.getD i []).flatMap (writeOut inlined 16)).eraseDups
  kept.toArray.push ⟨v.rules.size, #[⟨.rule 0, none, none, none, none⟩], 0⟩

end Vocabulary

end LineScope.Grammar
