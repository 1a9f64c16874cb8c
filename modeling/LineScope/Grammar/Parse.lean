import LineScope.Grammar.Stack

/-!
# Parsing

A parser reads a text token by token. Where its state allows more than one action it follows all of
them, each with a version of the stack of its own; versions that come to an end without having read the
text are dropped, and of readings that come together the heavier one is kept.
-/
namespace LineScope.Grammar

/-- A token that a scanner found: its number, where it starts and stops, and the scanner's memory after
it. -/
structure Scan (σ : Type) where
  token : Nat
  start : Cursor
  stop : Cursor
  memory : σ

/-- A finder of tokens that patterns cannot describe. It is told which of them may come next. -/
structure Scanner (σ : Type) where
  start : σ
  scan : σ → (Nat → Bool) → Cursor → Option (Scan σ)

/-- Whether a version of the stack is still read for. -/
inductive Status where
  | active
  /-- The next token does not fit. -/
  | stuck
  /-- The version is done or was taken over by another one. -/
  | halted
  deriving DecidableEq, Repr

/-- A version of the stack: its top, and the memory of the scanner. -/
structure Version (σ : Type) where
  top : Nat
  memory : σ
  status : Status

/-- A parse under way. -/
structure Run (σ : Type) where
  lr : LrMemory
  lex : LexMemory
  stack : Stack
  versions : Array (Version σ)
  finished : Option ParseTree
  /-- The number of actions that were looked up. -/
  operations : Nat
  /-- The place of the version that came farthest. -/
  farthest : Nat

/-- The next token of a version: a tree, and the memory of the scanner if it found the token. -/
structure Lookahead (σ : Type) where
  tree : ParseTree
  stop : Cursor
  memory : Option σ

namespace Run

variable {σ : Type}

def start (t : Tables) (scanner : Scanner σ) (text : String) : Run σ :=
  { lr := .start t
    lex := .empty
    stack := #[⟨0, .ofText text, #[], 0⟩]
    versions := #[⟨0, scanner.start, .active⟩]
    finished := none
    operations := 0
    farthest := 0 }

/-- How many versions are kept. -/
def maxVersions : Nat := 6

/-- How many versions there may be for a while. -/
def versionLimit : Nat := maxVersions + 4

def top (r : Run σ) (v : Nat) : StackNode :=
  match r.versions[v]? with
  | some version => r.stack.getD version.top default
  | none => default

def status (r : Run σ) (v : Nat) : Status := (r.versions[v]?.map (·.status)).getD .halted

def setStatus (r : Run σ) (v : Nat) (status : Status) : Run σ :=
  { r with versions := r.versions.modify v ({ · with status }) }

def remove (r : Run σ) (v : Nat) : Run σ := { r with versions := r.versions.eraseIdxIfInBounds v }

def push (r : Run σ) (v : Nat) (tree : ParseTree) (state : Nat) (cursor : Cursor) : Run σ :=
  let { lr, lex, stack, versions, finished, operations, farthest } := r
  match versions[v]? with
  | some version =>
    let (stack, top) := Stack.push stack version.top tree state cursor
    let versions := versions.modify v ({ · with top })
    { lr, lex, stack, versions, finished, operations, farthest }
  | none => { lr, lex, stack, versions, finished, operations, farthest }

/-! ## Tokens -/

/-- The characters that a number of bytes hold. -/
def takeBytes : Nat → List Char → List Char
  | _, [] => []
  | 0, _ => []
  | bytes, c :: cs => c :: takeBytes (bytes - c.utf8Size) cs

/-- The next token of a version in a state, if there is one. A mark of the byte order in front of the text
is passed over. A word that is a keyword is one only where the state can use it. -/
def lookahead [Inhabited σ] (t : Tables) (scanner : Scanner σ) (r : Run σ) (v : Nat) :
    Run σ × Option (Lookahead σ) :=
  let top := r.top v
  let state := r.lr.states[top.state]!
  let here := if top.cursor.place.byte = 0 then top.cursor.nextIf (· == '\uFEFF') else top.cursor
  let leaf (symbol : Nat) (start stop : Cursor) (keyword : Bool) : ParseTree :=
    ⟨symbol, 0, [], top.cursor.place, start.place, stop.place, symbol == endToken, keyword, 0⟩
  let memory := (r.versions[v]?.map (·.memory)).getD default
  let scan := if state.scans
    then scanner.scan memory (fun n => state.scanned.getD n false) here
    else none
  match scan with
  | some found =>
    let symbol := t.vocabulary.scanned.getD found.token 0
    (r, some ⟨leaf symbol found.start found.stop false, found.stop, some found.memory⟩)
  | none =>
    let { lr, lex, stack, versions, finished, operations, farthest } := r
    let (lex, found) := lex.token t.lexicon state.tokens here
    let r := { lr, lex, stack, versions, finished, operations, farthest }
    match found with
    | none => (r, none)
    | some found =>
      let plain := some ⟨leaf found.token found.start found.stop false, found.stop, none⟩
      if found.token == t.vocabulary.word then
        let size := found.stop.place.byte - found.start.place.byte
        match t.keywords[String.ofList (takeBytes size found.start.rest)]? with
        | some keyword =>
          let symbol := if (state.actions.getD keyword #[]).isEmpty then found.token else keyword
          (r, some ⟨leaf symbol found.start found.stop true, found.stop, none⟩)
        | none => (r, plain)
      else (r, plain)

/-! ## Actions -/

def shift (r : Run σ) (v state : Nat) (look : Lookahead σ) (extra : Bool) : Run σ :=
  let r := r.push v { look.tree with extra } state look.stop
  match look.memory with
  | some memory => { r with versions := r.versions.modify v ({ · with memory }) }
  | none => r

/-- Makes a version part of another one, if both are in the same state at the same place. -/
def merge [BEq σ] (r : Run σ) (a b : Nat) : Option (Run σ) :=
  match r.versions[a]?, r.versions[b]? with
  | some x, some y =>
    let top := r.stack.getD x.top default
    let other := r.stack.getD y.top default
    if x.status = .active && y.status = .active && top.state == other.state &&
        top.cursor.place.byte == other.cursor.place.byte && x.memory == y.memory then
      some { (r.remove b) with stack := Stack.join r.stack x.top y.top }
    else none
  | _, _ => none

/-- Makes a version part of the first of the versions in front of it that it fits, one of them apart. -/
def mergeInto [BEq σ] (r : Run σ) (v skip : Nat) : Option (Run σ) :=
  (List.range v).findSome? fun j => if j = skip then none else r.merge j v

/-- Children without the trailing ones that may stand anywhere, and those. -/
def splitExtras (children : List ParseTree) : List ParseTree × List ParseTree :=
  let trailing := (children.reverse.takeWhile (·.extra)).reverse
  (children.take (children.length - trailing.length), trailing)

/-- The best of the readings of a production: its tree, and what may stand anywhere behind it. -/
def best (symbol item : Nat) (place : Place) : List (List ParseTree) → ParseTree × List ParseTree
  | [] => (.ofChildren symbol item [] place, [])
  | first :: others =>
    let make (children : List ParseTree) : ParseTree × List ParseTree :=
      let (children, trailing) := splitExtras children
      (.ofChildren symbol item children place, trailing)
    others.foldl
      (fun best children =>
        let other := make children
        if best.1.prefersSecond other.1 then other else best)
      (make first)

/-- Puts the tree of a complete production on a new version, behind which the version may become part of
another one. -/
def complete [BEq σ] (t : Tables) (r : Run σ) (v w item : Nat) (atExtraEnd : Bool)
    (readings : List (List ParseTree)) : Run σ :=
  let top := r.top w
  let production := (t.item item).production
  let (tree, trailing) := best (t.tokenCount + production.rule) item top.cursor.place readings
  let weight := tree.weight + production.weight
  let (lr, next, extra) := match (r.lr.states[top.state]!).gotos.getD production.rule .nowhere with
    | .target n =>
      let (lr, next) := r.lr.target t top.state n
      (lr, some next, false)
    | .stay => (r.lr, some top.state, atExtraEnd)
    | .nowhere => (r.lr, none, false)
  let cursor := (r.top v).cursor
  match next with
  | none => { (r.setStatus w .halted) with lr }
  | some next =>
    let put (r : Run σ) (x : ParseTree) : Run σ := r.push w x next { cursor with place := x.stop }
    let r := trailing.foldl put (put { r with lr } { tree with extra, weight })
    (r.mergeInto w v).getD r

/-- Completes a production on a version. Each state that its symbols can be taken back to gives a new
version; the first of them is given. -/
def reduce [BEq σ] (t : Tables) (r : Run σ) (v item : Nat) (atExtraEnd : Bool) :
    Run σ × Option Nat :=
  let count := r.versions.size
  match r.versions[v]? with
  | none => (r, none)
  | some version =>
    let ends := Stack.take r.stack version.top (t.item item).dot
    let fresh := ends.nodes.map fun node => (⟨node, version.memory, .active⟩ : Version σ)
    let r := { r with versions := r.versions ++ fresh }
    let (r, _) := (List.range ends.nodes.size).foldl
      (fun (r, removed) n =>
        let w := count + n - removed
        if versionLimit < w then (r.remove w, removed + 1)
        else
          let readings := (ends.trees.toList.filter (·.1 == n)).map (·.2)
          let before := r.versions.size
          let r := r.complete t v w item atExtraEnd readings
          (r, removed + (before - r.versions.size)))
      (r, 0)
    (r, if count < r.versions.size then some count else none)

/-- Ends a version with the whole text. -/
def accept (t : Tables) (r : Run σ) (v : Nat) (look : Lookahead σ) : Run σ :=
  let r := r.push v look.tree 0 look.stop
  match r.versions[v]? with
  | none => r
  | some version =>
    let ends := Stack.takeAll r.stack version.top
    let finished := ends.trees.foldl
      (fun finished (_, trees) =>
        let children := trees.flatMap fun c => if c.extra then [c] else c.children
        let root := match trees.find? (!·.extra) with
          | some tree =>
            let root := ParseTree.ofChildren tree.symbol tree.item children look.stop.place
            { root with weight := tree.weight }
          | none => .ofChildren t.tokenCount 0 children look.stop.place
        match finished with
        | some best => if best.prefersSecond root then some root else some best
        | none => some root)
      r.finished
    { r.setStatus v .halted with finished }

/-! ## Steps -/

/-- Performs actions for a token: whether it was taken in, whether a production was completed, and the
last version that this gave. -/
def perform [BEq σ] (t : Tables) (v : Nat) (look : Option (Lookahead σ)) :
    List Action → Run σ → Bool → Option Nat → Run σ × Bool × Bool × Option Nat
  | [], r, reduced, last => (r, false, reduced, last)
  | .reduce item :: actions, r, _, last =>
    let (r, made) := r.reduce t v item look.isNone
    perform t v look actions r true (made <|> last)
  | .shift n :: actions, r, reduced, last =>
    match look with
    | some look =>
      let (lr, next) := r.lr.target t (r.top v).state n
      (({ r with lr }).shift v next look false, true, reduced, last)
    | none => perform t v none actions r reduced last
  | .pass :: actions, r, reduced, last =>
    match look with
    | some look => (r.shift v (r.top v).state look true, true, reduced, last)
    | none => perform t v none actions r reduced last
  | .accept :: actions, r, reduced, last =>
    match look with
    | some look => (r.accept t v look, true, reduced, last)
    | none => perform t v none actions r reduced last

/-- Puts a version in the place of another one in front of it. -/
def renumber (r : Run σ) (w v : Nat) : Run σ :=
  match r.versions[w]? with
  | some version => { (r.remove w) with versions := (r.remove w).versions.set! v version }
  | none => r

/-- Reads one token for a version: completes productions until the token is taken in, the text is
accepted, or nothing fits. -/
def advance [BEq σ] [Inhabited σ] (t : Tables) (scanner : Scanner σ) (limit v : Nat) :
    Nat → Option (Option (Lookahead σ)) → Run σ → Run σ
  | 0, _, r => r
  | fuel + 1, known, r =>
    let state := r.lr.states[(r.top v).state]!
    let (r, look, fits) := match known with
      | some look => (r, look, true)
      | none =>
        if state.endsExtra then (r, none, true)
        else
          let (r, look) := r.lookahead t scanner v
          (r, look, look.isSome)
    let r := { r with operations := r.operations + 1 }
    if limit ≤ r.operations then r
    else if !fits then r.setStatus v .stuck
    else
      let symbol := match look with
        | some look => look.tree.symbol
        | none => t.afterExtra
      let actions := state.actions.getD symbol #[]
      let (r, taken, reduced, last) := perform t v look actions.toList r false none
      if taken then r
      else
        match last with
        | some w => advance t scanner limit v fuel (look.map some) (r.renumber w v)
        | none =>
          if reduced then r.setStatus v .halted
          else
            match look with
            | some look =>
              let word := t.vocabulary.word
              if look.tree.keyword && symbol != word && !(state.actions.getD word #[]).isEmpty then
                let look := { look with tree := { look.tree with symbol := word } }
                advance t scanner limit v fuel (some (some look)) r
              else r.setStatus v .stuck
            | none => r.setStatus v .stuck

/-- Reads for a version until it has come farther than the versions before it. -/
def advancePast [BEq σ] [Inhabited σ] (t : Tables) (scanner : Scanner σ) (limit v : Nat) :
    Nat → Run σ → Run σ
  | 0, r => r
  | fuel + 1, r =>
    if r.status v = .active && r.operations < limit then
      let r := r.advance t scanner limit v fuel none
      let place := (r.top v).cursor.place.byte
      if r.farthest < place || (0 < v && place == r.farthest) then { r with farthest := place }
      else advancePast t scanner limit v fuel r
    else r

/-- Reads for all versions in turn, from a numbered one on. -/
def advanceAll [BEq σ] [Inhabited σ] (t : Tables) (scanner : Scanner σ) (limit : Nat) :
    Nat → Nat → Run σ → Run σ
  | 0, _, r => r
  | fuel + 1, v, r =>
    if v < r.versions.size then
      advanceAll t scanner limit fuel (v + 1) (r.advancePast t scanner limit v fuel)
    else r

/-- Which of two versions goes first: one that is not stuck, then the heavier one. -/
inductive Precedes where
  | only
  | rather
  | neither
  | ratherNot
  | not
  deriving DecidableEq, Repr

/-- How a version compares with one behind it. -/
def precedes (r : Run σ) (a b : Nat) : Precedes :=
  let stuck (v : Nat) : Bool := r.status v = .stuck
  if !stuck a && stuck b then .only
  else if stuck a && !stuck b then .not
  else if (r.top b).weight < (r.top a).weight then .rather
  else if (r.top a).weight < (r.top b).weight then .ratherNot
  else .neither

def swap (r : Run σ) (a b : Nat) : Run σ :=
  match r.versions[a]?, r.versions[b]? with
  | some x, some y => { r with versions := (r.versions.set! a y).set! b x }
  | _, _ => r

/-- Compares a version with those in front of it, from a numbered one on: what is left, and the number
of the version to go on with. -/
def settle [BEq σ] : Nat → Nat → Nat → Run σ → Run σ × Nat
  | 0, i, _, r => (r, i + 1)
  | fuel + 1, i, j, r =>
    if j < i then
      match r.precedes j i with
      | .only => (r.remove i, i)
      | .rather =>
        match r.merge j i with
        | some r => (r, i)
        | none => settle fuel i (j + 1) r
      | .neither =>
        match r.merge j i with
        | some r => (r, i)
        | none => settle fuel i (j + 1) r
      | .ratherNot =>
        match r.merge j i with
        | some r => (r, i)
        | none => settle fuel i (j + 1) (r.swap i j)
      | .not => settle fuel (i - 1) j (r.remove j)
    else (r, i + 1)

/-- Drops versions that are done, and puts the others in order. -/
def condense [BEq σ] : Nat → Nat → Run σ → Run σ
  | 0, _, r => r
  | fuel + 1, i, r =>
    if i < r.versions.size then
      if r.status i = .halted then condense fuel i (r.remove i)
      else
        let (r, i) := settle (r.versions.size + 1) i 0 r
        condense fuel i r
    else { r with versions := r.versions.extract 0 maxVersions }

/-- Reads the text until every version has come to an end. -/
def rounds [BEq σ] [Inhabited σ] (t : Tables) (scanner : Scanner σ) (limit : Nat) : Nat → Run σ → Run σ
  | 0, r => r
  | fuel + 1, r =>
    let r := r.advanceAll t scanner limit fuel 0
    let r := condense (2 * r.versions.size + 2) 0 r
    if limit ≤ r.operations then r
    else if r.versions.all (·.status = .stuck) then r
    else rounds t scanner limit fuel r

end Run

/-- How many actions are looked up at most for a text, far more than any text needs. -/
def patience (text : String) : Nat := 1000 * text.utf8ByteSize + 100000

/-- A node that covers a whole text and has no children. -/
def wholeText (kind : String) (text : String) : SourceNode :=
  let stop := text.toList.foldl Place.after .start
  ⟨kind, none, 0, stop.byte, Place.start.position, stop.position, []⟩

/-- The tree of a text. A text that does not follow the grammar is a node without children. -/
def parse {σ : Type} [BEq σ] [Inhabited σ] (t : Tables) (scanner : Scanner σ) (text : String) :
    SourceTree :=
  let limit := patience text
  let r := Run.rounds t scanner limit limit (Run.start t scanner text)
  let kind := (t.kind? t.tokenCount).getD ""
  match r.finished with
  | some tree =>
    match tree.show t none none [] with
    | root :: _ => ⟨root⟩
    | [] => ⟨wholeText kind text⟩
  | none => ⟨wholeText kind text⟩

/-- Reads on through a text that has left the grammar, and counts an action for every token on the way, up
to a limit. What is no token is passed over. -/
def readOn (x : Lexicon) (tokens : TokenSet) (limit : Nat) : Nat → LexMemory → Cursor → Nat → Nat
  | 0, _, _, count => count
  | fuel + 1, lex, c, count =>
    if limit ≤ count || c.atEnd then count
    else
      match lex.token x tokens c with
      | (lex, some found) =>
        if c.place.byte < found.stop.place.byte then readOn x tokens limit fuel lex found.stop (count + 1)
        else readOn x tokens limit fuel lex c.next count
      | (lex, none) => readOn x tokens limit fuel lex c.next count

/-- Whether the parse of a text looks up a number of actions or more. A text that leaves the grammar is
read to its end all the same. -/
def looksUp {σ : Type} [BEq σ] [Inhabited σ] (t : Tables) (scanner : Scanner σ) (count : Nat)
    (text : String) : Bool :=
  let r := Run.rounds t scanner count (patience text) (Run.start t scanner text)
  count ≤ r.operations ||
    (r.finished.isNone &&
      count ≤ readOn t.lexicon t.lexicon.distinct count text.utf8ByteSize r.lex (r.top 0).cursor
        r.operations)

end LineScope.Grammar
