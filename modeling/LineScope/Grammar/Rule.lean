import LineScope.Grammar.Pattern

/-!
# Rules of a grammar

A grammar says how tokens make up nodes. Where two readings of a text are possible, precedences say
which is taken; those that precedences leave open are followed side by side.
-/
namespace LineScope.Grammar

/-- To which side operators of one precedence group. -/
inductive Side where
  | left
  | right
  deriving DecidableEq, Repr, Hashable

/-- What a rule says of the symbols in it. -/
structure Marks where
  /-- The precedence of the rule over others that it competes with. -/
  precedence : Option Int
  side : Option Side
  /-- What the rule weighs when whole readings are compared. -/
  weight : Int
  /-- The kind that nodes are given in place of their own. -/
  kind : Option String
  /-- The part that nodes play. -/
  role : Option String
  deriving DecidableEq, Repr, Hashable

def Marks.none : Marks := ⟨.none, .none, 0, .none, .none⟩

inductive Rule where
  /-- Nothing. -/
  | blank
  /-- A given text. -/
  | text (s : String)
  /-- A token described by a pattern, known by its name. -/
  | token (name : String)
  /-- A rule known by its name. -/
  | ref (name : String)
  /-- Rules one after the other. -/
  | seq (parts : List Rule)
  /-- Any of the rules. -/
  | choice (parts : List Rule)
  /-- A rule one or more times. -/
  | many1 (body : Rule)
  /-- A rule with marks. -/
  | marked (marks : Marks) (body : Rule)
  deriving Repr, BEq, Hashable

namespace Rule

def alternatives : Rule → List Rule
  | .choice parts => parts
  | r => [r]

def any (rules : List Rule) : Rule :=
  .choice ((rules.flatMap alternatives).foldl
    (fun seen r => if seen.contains r then seen else seen ++ [r]) [])

def all (rules : List Rule) : Rule := .seq rules

def opt (r : Rule) : Rule := any [r, .blank]

/-- Rules that may be left out together. -/
def optAll (rules : List Rule) : Rule := opt (all rules)

def many (r : Rule) : Rule := any [.many1 r, .blank]

/-- A rule one or more times, with a separator between. -/
def sepBy1 (separator r : Rule) : Rule := all [r, many (all [separator, r])]

def mark (f : Marks → Marks) : Rule → Rule
  | .marked marks body => .marked (f marks) body
  | r => .marked (f .none) r

def prec (n : Int) (r : Rule) : Rule := r.mark ({ · with precedence := some n })

def left (n : Int) (r : Rule) : Rule := r.mark ({ · with precedence := some n, side := some .left })

def right (n : Int) (r : Rule) : Rule := r.mark ({ · with precedence := some n, side := some .right })

def weigh (n : Int) (r : Rule) : Rule := r.mark ({ · with weight := n })

/-- A rule whose nodes are of another kind. -/
def as (kind : String) (r : Rule) : Rule := r.mark ({ · with kind := some kind })

/-- A rule whose nodes play a part. -/
def role (role : String) (r : Rule) : Rule := r.mark ({ · with role := some role })

instance : Coe String Rule := ⟨.text⟩

end Rule

structure RuleSet where
  /-- The rules by name, the first being that of a whole text. -/
  rules : List (String × Rule)
  /-- The patterns of tokens by name. -/
  tokens : List (String × Token)
  /-- The characters that may stand between tokens. -/
  gap : Char → Bool
  /-- What else may stand between tokens. -/
  extras : List String
  /-- The tokens that a scanner finds, in the order of its numbers. -/
  scanned : List Rule
  /-- Rules without nodes of their own. -/
  unnamed : List String
  /-- Rules that are read as if written out where they are used. -/
  inlined : List String
  /-- The token that keywords look like. -/
  word : String
  /-- Rules in order of precedence, the first one highest. -/
  orders : List (List String)

end LineScope.Grammar
