import LineScope.Grammar.Item
import LineScope.Grammar.Place

/-!
# Recognizing tokens

The patterns of all tokens make up one automaton. A recognizer runs it from the tokens that may come
next, over the gap in front of them, and gives the longest token it meets. States of the recognizer are
sets of states of the automaton; they are made when they are first met.
-/
namespace LineScope.Grammar

/-- A state of the automaton of patterns. -/
inductive PatternState where
  /-- A token is complete. -/
  | accept (token : Nat)
  /-- A character with a property leads on. -/
  | read (accepts : Char → Bool) (next token : Nat)
  /-- Two states at once. -/
  | fork (first second : Nat)

/-- Adds a pattern in front of a state, and gives the state at its start. -/
def Pattern.build (token : Nat) : Pattern → Nat → Array PatternState → Array PatternState × Nat
  | .nothing, next, states => (states, next)
  | .one accepts, next, states => (states.push (.read accepts next token), states.size)
  | .seq first second, next, states =>
    let (states, middle) := second.build token next states
    first.build token middle states
  | .alt first second, next, states =>
    let (states, a) := first.build token next states
    let (states, b) := second.build token next states
    (states.push (.fork a b), states.size)
  | .many body, next, states =>
    let loop := states.size
    let (states, start) := body.build token loop (states.push (.fork next next))
    (states.set! loop (.fork start next), loop)

/-- The states at which something is read or complete that a state stands for, each once. -/
def reachable (states : Array PatternState) : Nat → List Nat → List Nat → List Nat → List Nat
  | 0, _, _, found => found
  | _, [], _, found => found
  | fuel + 1, s :: rest, seen, found =>
    if seen.contains s then reachable states fuel rest seen found
    else
      match states[s]? with
      | some (.fork a b) => reachable states fuel (a :: b :: rest) (s :: seen) found
      | some _ => reachable states fuel rest (s :: seen) (s :: found)
      | none => reachable states fuel rest seen found

/-- The patterns of a grammar's tokens. -/
structure Lexicon where
  /-- Which characters may stand in a gap. -/
  gap : Char → Bool
  tokens : Array TokenEntry
  states : Array PatternState
  /-- The states that each state stands for. -/
  reach : Array (Array Nat)
  /-- The state at the start of each token. -/
  starts : Array Nat

namespace Lexicon

def ofTokens (gap : Char → Bool) (tokens : Array TokenEntry) : Lexicon := Id.run do
  let mut states : Array PatternState := #[]
  let mut starts : Array Nat := #[]
  for h : i in [0 : tokens.size] do
    match tokens[i].token with
    | some token =>
      let final := states.size
      let (built, start) := token.pattern.build i final (states.push (.accept i))
      states := built
      starts := starts.push start
    | none => starts := starts.push 0
  let all := states
  let reach := (Array.range all.size).map fun s =>
    (reachable all (2 * all.size + 2) [s] [] []).toArray
  return { gap, tokens, states, reach, starts }

def precedence (x : Lexicon) (t : Nat) : Int :=
  ((x.tokens[t]?.bind (·.token)).map (·.precedence)).getD 0

/-- Whether a token must follow without a gap. -/
def immediate (x : Lexicon) (t : Nat) : Bool :=
  ((x.tokens[t]?.bind (·.token)).map (·.immediate)).getD false

/-- Whether the first of two tokens that are complete at once is taken: that of the higher precedence,
then of the higher rank, then the one that the grammar names first. -/
def prefers (x : Lexicon) (a b : Nat) : Bool :=
  let rank (t : Nat) : Nat := ((x.tokens[t]?.bind (·.token)).map Token.rank).getD 0
  let order (t : Nat) : Nat := (x.tokens[t]?.map (·.order)).getD 0
  if x.precedence a ≠ x.precedence b then x.precedence b < x.precedence a
  else if rank a ≠ rank b then rank b < rank a
  else order a < order b

/-- States of the automaton in order, each once. -/
def sortedUnion (states : Array Nat) : Array Nat :=
  (states.qsort (· < ·)).foldl
    (fun found s => if found.back? = some s then found else found.push s) #[]

end Lexicon

/-- A state of a recognizer: the states of the automaton, and the tokens that may still begin if the
recognizer is in the gap in front of them. -/
structure LexState where
  live : Array Nat
  fresh : Option TokenSet
  /-- The token that is complete. -/
  complete : Option Nat
  deriving Inhabited

namespace Lexicon

def state (x : Lexicon) (live : Array Nat) (fresh : Option TokenSet) : LexState :=
  let complete := live.foldl
    (fun best s =>
      match x.states[s]? with
      | some (.accept t) =>
        match best with
        | some b => if x.prefers b t then best else some t
        | none => some t
      | _ => best)
    none
  ⟨live, fresh, complete⟩

/-- The states at the start of tokens of a set; after a gap, only those of tokens that may follow one. -/
def startStates (x : Lexicon) (tokens : TokenSet) (afterGap : Bool) : Array Nat :=
  sortedUnion <| (TokenSet.toList tokens x.tokens.size).foldl
    (fun found t =>
      match x.tokens[t]?.bind (·.token) with
      | some token =>
        if afterGap && token.immediate then found
        else found ++ (x.reach.getD (x.starts.getD t 0) #[])
      | none => found)
    #[]

/-- The state of a recognizer in front of tokens. -/
def begin (x : Lexicon) (tokens : TokenSet) : LexState :=
  x.state (x.startStates tokens false) (some tokens)

/-- Where states lead by a character: the states after it, and the tokens that it belongs to. -/
def reads (x : Lexicon) (live : Array Nat) (c : Char) : Array (Nat × Nat) :=
  live.filterMap fun (i : Nat) =>
    match x.states[i]? with
    | some (PatternState.read accepts next token) => if accepts c then some (next, token) else none
    | _ => none

/-- The tokens that can be told apart anywhere: those that do not begin with just any character. -/
def distinct (x : Lexicon) : TokenSet :=
  (List.range x.tokens.size).foldl
    (fun tokens t =>
      if (x.reads (x.startStates (.single t) false) '\x01').isEmpty then tokens ||| .single t
      else tokens)
    0

/-- The highest precedence among a character's tokens, that of a gap being zero. -/
def highest (x : Lexicon) (inGap : Bool) (reads : Array (Nat × Nat)) : Int :=
  let levels := reads.toList.map fun r => x.precedence r.2
  match if inGap then 0 :: levels else levels with
  | [] => 0
  | level :: levels => levels.foldl max level

/-- Whether a recognizer goes on with a character where a token is complete: only if the character can
belong to a token of no lower precedence; and while a gap may still go on, only if it can belong to that
very token. -/
def goesOn (x : Lexicon) (s : LexState) (t : Nat) (inGap : Bool) (reads : Array (Nat × Nat)) : Bool :=
  let highest := x.highest inGap reads
  if highest ≠ x.precedence t then x.precedence t < highest
  else if reads.isEmpty then false
  else
    match s.fresh with
    | none => true
    | some tokens =>
      reads.any (·.2 == t) || (inGap && TokenSet.has tokens t && !x.immediate t)

/-- Where a character leads, and whether it belongs to the gap in front of a token. -/
def step (x : Lexicon) (s : LexState) (c : Char) : Option (LexState × Bool) :=
  let reads := x.reads s.live c
  let inGap := s.fresh.isSome && x.gap c
  if reads.isEmpty && !inGap then none
  else if (s.complete.map fun t => x.goesOn s t inGap reads).getD true then
    let fresh := if inGap then s.fresh else none
    let moved := reads.foldl (fun found (next, _) => found ++ x.reach.getD next #[]) #[]
    let begun := match fresh with
      | some tokens => x.startStates tokens true
      | none => #[]
    some (x.state (sortedUnion (moved ++ begun)) fresh, reads.isEmpty)
  else none

end Lexicon

/-- The states of recognizers that were met, and where characters lead from them. -/
structure LexMemory where
  states : Array LexState
  /-- The states by their parts. -/
  numbers : Std.HashMap (Array Nat × Option TokenSet) Nat
  /-- The states in front of sets of tokens. -/
  begins : Std.HashMap TokenSet Nat
  /-- Where characters lead, by the state and the number of the character. -/
  edges : Std.HashMap (Nat × Nat) (Option (Nat × Bool))

namespace LexMemory

def empty : LexMemory := ⟨#[], {}, {}, {}⟩

def number (m : LexMemory) (s : LexState) : LexMemory × Nat :=
  match m.numbers[(s.live, s.fresh)]? with
  | some n => (m, n)
  | none =>
    let n := m.states.size
    ({ m with states := m.states.push s, numbers := m.numbers.insert (s.live, s.fresh) n }, n)

/-- The number of the state in front of tokens. -/
def begin (x : Lexicon) (m : LexMemory) (tokens : TokenSet) : LexMemory × Nat :=
  match m.begins[tokens]? with
  | some n => (m, n)
  | none =>
    let (m, n) := m.number (x.begin tokens)
    ({ m with begins := m.begins.insert tokens n }, n)

/-- Where a character leads from a state. -/
def step (x : Lexicon) (m : LexMemory) (s : Nat) (c : Char) : LexMemory × Option (Nat × Bool) :=
  match m.edges[(s, c.toNat)]? with
  | some found => (m, found)
  | none =>
    match x.step m.states[s]! c with
    | some (next, isGap) =>
      let (m, n) := m.number next
      ({ m with edges := m.edges.insert (s, c.toNat) (some (n, isGap)) }, some (n, isGap))
    | none => ({ m with edges := m.edges.insert (s, c.toNat) none }, none)

end LexMemory

/-- A token that was recognized, and where it starts and ends. -/
structure Lexeme where
  token : Nat
  start : Cursor
  stop : Cursor

/-- Runs a recognizer: whether it has met the gap only, the place it has come to, where the token
starts, and the longest token so far. -/
def recognize (x : Lexicon) (endValid : Bool) :
    List Char → LexMemory → Nat → Bool → Place → Cursor → Option Lexeme → LexMemory × Option Lexeme
  | [], m, s, idle, place, start, best =>
    if endValid && idle then (m, some ⟨endToken, ⟨place, []⟩, ⟨place, []⟩⟩)
    else
      match m.states[s]!.complete with
      | some t => (m, some ⟨t, start, ⟨place, []⟩⟩)
      | none =>
        -- A token may demand the end of the text, which is the zero character to it.
        match m.step x s '\x00' with
        | (m, some (next, _)) =>
          match m.states[next]!.complete with
          | some t => (m, some ⟨t, start, ⟨place, []⟩⟩)
          | none => (m, best)
        | (m, none) => (m, best)
  | c :: rest, m, s, idle, place, start, best =>
    let best := match m.states[s]!.complete with
      | some t => some ⟨t, start, ⟨place, c :: rest⟩⟩
      | none => best
    match m.step x s c with
    | (m, some (next, isGap)) =>
      let after := place.after c
      let start := if isGap then ⟨after, rest⟩ else start
      recognize x endValid rest m next (idle && isGap) after start best
    | (m, none) => (m, best)

/-- The token in front of a reader, out of a set. -/
def LexMemory.token (x : Lexicon) (m : LexMemory) (tokens : TokenSet) (c : Cursor) :
    LexMemory × Option Lexeme :=
  let (m, s) := m.begin x tokens
  recognize x (TokenSet.has tokens endToken) c.rest m s true c.place c none

end LineScope.Grammar
