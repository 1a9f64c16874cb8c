import LineScope.Yaml.Scanner

/-!
# YAML documents

The one document of a stream as a tree of nodes. Nothing where a node is due is an empty plain scalar. A
stream that cannot be read to its end gives the part of the tree in front of that place.

Anchors are numbered as they come, by how many names there are already. A name that is used again gets
the number that the next new name will get too, and an alias stands for the node that its number was
last given to, wherever that is.
-/
namespace LineScope.Yaml

/-- A node of a document: where it starts, its tag if it has one, and its content. -/
inductive Node where
  | scalar (mark : Mark) (tag : Option Tag) (style : ScalarStyle) (text : String)
  | sequence (mark : Mark) (tag : Option Tag) (items : List Node)
  | mapping (mark : Mark) (tag : Option Tag) (pairs : List (Node × Node))
  /-- A node that stands under the number of an anchor. -/
  | alias (mark : Mark) (number : Nat)
  /-- The stream could not be read on from here. -/
  | cut (problem : Problem)
  deriving Repr

def Node.mark : Node → Mark
  | .scalar mark _ _ _ => mark
  | .sequence mark _ _ => mark
  | .mapping mark _ _ => mark
  | .alias mark _ => mark
  | .cut _ => .start

/-- The scalar that stands where there is nothing. -/
def Node.nothing (mark : Mark) : Node := .scalar mark none .plain ""

structure Document where
  /-- The node of the document; none when the stream has no document. -/
  root : Option Node
  /-- The anchored nodes with their numbers, in the order in which they start. -/
  anchored : Array (Nat × Node)
  /-- What keeps the stream from being one document. -/
  problem : Option Problem

/-- The node that a node stands for. -/
def Document.resolve (d : Document) : Node → Node
  | .alias mark number =>
    match d.anchored.findRev? (·.1 == number) with
    | some (_, n) => n
    | none => .cut (.unknownAnchor mark)
  | n => n

/-- A document under way: the tokens to come, what tag handles stand for, the numbers of anchors, the
anchored nodes so far, and what keeps the stream from being read on. -/
structure Composer where
  tokens : List Token
  handles : List (String × Tag)
  numbers : List (String × Nat)
  anchored : Array (Nat × Node)
  problem : Option Problem

namespace Composer

/-- The next token; past the last one the stream has ended. -/
def head (s : Composer) : Token := s.tokens.headD ⟨.streamEnd, .start, .start⟩

def kind (s : Composer) : TokenKind := s.head.kind

def skip (s : Composer) : Composer := { s with tokens := s.tokens.drop 1 }

/-- What is wrong with a token that does not fit: that the stream is broken there, or a fault. -/
def misfit (s : Composer) (fault : Fault) (during : Option (Activity × Mark)) : Problem :=
  match s.kind with
  | .broken problem => problem
  | _ => .found fault s.head.start during

/-- What is wrong where there is no end to what is being read. -/
def endless (s : Composer) : Problem := s.misfit .nodeContent none

/-- Notes that the stream cannot be read on. -/
def fail (s : Composer) (problem : Problem) : Composer := { s with problem := some problem }

/-- Cuts a node off where the stream cannot be read on. -/
def cut (s : Composer) (problem : Problem) : Node × Composer := (.cut problem, s.fail problem)

/-- What a tag at the head stands for, in a node that starts at a mark. -/
def resolveTag (start : Mark) (s : Composer) (handle : String) (suffix : Tag) : Except Problem Tag :=
  if handle = "" then .ok suffix
  else
    match s.handles.lookup handle with
    | some uri => .ok (uri ++ suffix)
    | none => .error (.found .unknownHandle s.head.start (some (.node, start)))

/-- What stands before a node: an anchor and a tag, in either order. -/
structure Properties where
  anchor : Option String
  tag : Option Tag

def anchor? (s : Composer) : Option String :=
  match s.kind with
  | .anchor name => some name
  | _ => none

def tag? (s : Composer) : Option (String × Tag) :=
  match s.kind with
  | .tag handle suffix => some (handle, suffix)
  | _ => none

/-- What the tag at the head stands for, if there is one; the token after the properties is known. -/
def tagBefore (start : Mark) (s rest : Composer) : Except Problem (Option Tag) :=
  match s.tag?, rest.kind with
  | some _, .broken problem => .error problem
  | some (handle, suffix), _ => (s.resolveTag start handle suffix).map some
  | none, _ => .ok none

def properties (s : Composer) : Except Problem (Properties × Composer) := do
  let start := s.head.start
  match s.anchor?, s.tag? with
  | some name, _ =>
    let rest := if s.skip.tag?.isSome then s.skip.skip else s.skip
    return (⟨some name, ← s.skip.tagBefore start rest⟩, rest)
  | none, some _ =>
    let rest := if s.skip.anchor?.isSome then s.skip.skip else s.skip
    return (⟨s.skip.anchor?, ← s.tagBefore start rest⟩, rest)
  | none, none => return (⟨none, none⟩, s)

def number (p : Properties) (s : Composer) : Composer :=
  match p.anchor with
  | some name =>
    let number := s.numbers.length
    let others := s.numbers.filter (·.1 ≠ name)
    { s with
      numbers := (name, number) :: others
      anchored := s.anchored.push (number, .cut (.unknownAnchor .start)) }
  | none => s

def keep (p : Properties) (place : Nat) (made : Node × Composer) : Node × Composer :=
  let (n, s) := made
  match p.anchor with
  | some _ => (n, { s with anchored := s.anchored.modify place fun entry => (entry.1, n) })
  | none => (n, s)

/-- Where a node may stand, which decides what can be a collection there. -/
inductive Context where
  | flow
  | block
  /-- A key or value of a block mapping, where a sequence need not be indented. -/
  | mappingPart
  deriving DecidableEq

/-- Whether a token ends an entry of a block sequence before its node. -/
def endsEntry : TokenKind → Bool
  | .blockEntry => true
  | .blockEnd => true
  | _ => false

/-- Whether a token ends an entry of a sequence that is not indented, before its node. -/
def endsLooseEntry : TokenKind → Bool
  | .blockEntry => true
  | .key => true
  | .value => true
  | .blockEnd => true
  | _ => false

/-- Whether a token ends part of a block mapping before its node. -/
def endsPart : TokenKind → Bool
  | .key => true
  | .value => true
  | .blockEnd => true
  | _ => false

/-- Whether a token ends the value of a pair in a flow mapping before its node. -/
def endsFlowPart : TokenKind → Bool
  | .flowEntry => true
  | .flowMappingEnd => true
  | _ => false

/-- Whether a token ends the value of a pair in a flow sequence before its node. -/
def endsFlowItem : TokenKind → Bool
  | .flowEntry => true
  | .flowSequenceEnd => true
  | _ => false

/-- Pairs that are cut off where the stream cannot be read on. -/
def cutPairs (problem : Problem) (s : Composer) : List (Node × Node) × Composer :=
  ([(.cut problem, .cut problem)], s.fail problem)

/-- Steps to the next entry of a flow collection: over the comma in front of it, unless it is the first
one or the collection ends. -/
def nextEntry (first : Bool) (closing : TokenKind) (fault : Fault) (during : Activity × Mark)
    (s : Composer) : Except Problem Composer :=
  if first || s.kind == closing then .ok s
  else if s.kind == .flowEntry then .ok s.skip
  else .error (s.misfit fault (some during))

/-- What a node is going to be. -/
inductive Shape where
  | scalar (style : ScalarStyle) (text : String)
  | looseSequence
  | flowSequence
  | flowMapping
  | blockSequence
  | blockMapping

/-- What the node is going to be that a token begins; after properties, it may be nothing. -/
def shape? (context : Context) (p : Properties) : TokenKind → Option Shape
  | .scalar style text => some (.scalar style text)
  | .flowSequenceStart => some .flowSequence
  | .flowMappingStart => some .flowMapping
  | .broken _ => none
  | kind =>
    match kind, context with
    | .blockEntry, .mappingPart => some .looseSequence
    | .blockSequenceStart, .block => some .blockSequence
    | .blockSequenceStart, .mappingPart => some .blockSequence
    | .blockMappingStart, .block => some .blockMapping
    | .blockMappingStart, .mappingPart => some .blockMapping
    | _, _ => if p.anchor.isSome || p.tag.isSome then some (.scalar .plain "") else none

/-- The tag that a node keeps: the exclamation mark alone says nothing of a scalar that is written. -/
def keptTag (tag : Option Tag) : TokenKind → Option Tag
  | .scalar _ _ => tag.filter (· ≠ [0x21])
  | _ => tag

/-- Steps over the token that a node of a shape begins with. -/
def enter (s : Composer) : Shape → Composer
  | .looseSequence => s
  | .scalar _ _ =>
    match s.kind with
    | .scalar _ _ => s.skip
    | _ => s
  | _ => s.skip

mutual

def node (context : Context) : Nat → Composer → Node × Composer
  | 0, s => s.cut s.endless
  | fuel + 1, s =>
    let mark := s.head.start
    match s.kind with
    | .alias name =>
      match s.numbers.lookup name with
      | some number => (.alias mark number, s.skip)
      | none => s.cut (.unknownAnchor mark)
    | _ =>
      match s.properties with
      | .error problem => s.cut problem
      | .ok (p, s) =>
        match shape? context p s.kind with
        | none =>
          let activity := if context = .flow then Activity.flowNode else .blockNode
          s.cut (s.misfit .nodeContent (some (activity, mark)))
        | some shape =>
          keep p s.anchored.size
            (content s.head.start mark (keptTag p.tag s.kind) shape fuel ((s.number p).enter shape))

/-- Reads the content of a node, which starts at a mark; what stands before it starts at another. -/
def content (start mark : Mark) (tag : Option Tag) (shape : Shape) : Nat → Composer → Node × Composer
  | 0, s => s.cut s.endless
  | fuel + 1, s =>
    match shape with
    | .scalar style text => (.scalar mark tag style text, s)
    | .looseSequence =>
      let (items, s) := looseItems fuel s
      (.sequence mark tag items, s)
    | .flowSequence =>
      let (items, s) := flowItems start true fuel s
      (.sequence mark tag items, s)
    | .blockSequence =>
      let (items, s) := blockItems start fuel s
      (.sequence mark tag items, s)
    | .flowMapping =>
      let (pairs, s) := flowPairs start true fuel s
      (.mapping mark tag pairs, s)
    | .blockMapping =>
      let (pairs, s) := blockPairs start fuel s
      (.mapping mark tag pairs, s)

/-- Reads a node, or nothing where the next token ends its place; nothing stands at a mark. -/
def nodeUnless (ends : TokenKind → Bool) (nowhere : Mark) (context : Context) :
    Nat → Composer → Node × Composer
  | 0, s => s.cut s.endless
  | fuel + 1, s => if ends s.kind then (.nothing nowhere, s) else node context fuel s

/-- Reads a key, whose mark is at the head, and the value that may follow it. In block context, nothing
stands where the mark in front of it stops, and in flow context where the next token starts. -/
def pair (ends : TokenKind → Bool) (context : Context) :
    Nat → Composer → (Node × Node) × Composer
  | 0, s => ((.cut s.endless, .cut s.endless), s.fail s.endless)
  | fuel + 1, s =>
    let nowhere (s : Composer) : Mark :=
      if context = .flow then s.skip.head.start else s.head.stop
    let endsKey (kind : TokenKind) : Bool := kind == .value || ends kind
    let (key, s) := nodeUnless endsKey (nowhere s) context fuel s.skip
    match s.problem, s.kind with
    | some problem, _ => ((key, .cut problem), s)
    | none, .broken problem => ((key, .cut problem), s.fail problem)
    | none, .value =>
      let (value, s) := nodeUnless ends (nowhere s) context fuel s.skip
      ((key, value), s)
    | none, _ => ((key, .nothing s.head.start), s)

def blockItems (start : Mark) : Nat → Composer → List Node × Composer
  | 0, s => ([.cut s.endless], s.fail s.endless)
  | fuel + 1, s =>
    match s.problem, s.kind with
    | some problem, _ => ([.cut problem], s)
    | none, .blockEnd => ([], s.skip)
    | none, .blockEntry =>
      let (item, s) := nodeUnless endsEntry s.head.stop .block fuel s.skip
      let (items, s) := blockItems start fuel s
      (item :: items, s)
    | none, _ =>
      let problem := s.misfit .entryMark (some (.blockSequence, start))
      ([.cut problem], s.fail problem)

/-- Reads the entries of a sequence that is not indented. -/
def looseItems : Nat → Composer → List Node × Composer
  | 0, s => ([.cut s.endless], s.fail s.endless)
  | fuel + 1, s =>
    match s.problem, s.kind with
    | some problem, _ => ([.cut problem], s)
    | none, .blockEntry =>
      let (item, s) := nodeUnless endsLooseEntry s.head.stop .block fuel s.skip
      let (items, s) := looseItems fuel s
      (item :: items, s)
    | none, .broken problem => ([.cut problem], s.fail problem)
    | none, _ => ([], s)

def blockPairs (start : Mark) : Nat → Composer → List (Node × Node) × Composer
  | 0, s => cutPairs s.endless s
  | fuel + 1, s =>
    match s.problem, s.kind with
    | some problem, _ => cutPairs problem s
    | none, .blockEnd => ([], s.skip)
    | none, .key =>
      let (first, s) := pair endsPart .mappingPart fuel s
      let (pairs, s) := blockPairs start fuel s
      (first :: pairs, s)
    | none, _ => cutPairs (s.misfit .key (some (.blockMapping, start))) s

/-- Reads the items of a flow sequence up to its end. A key makes an item a mapping of one pair. -/
def flowItems (start : Mark) (first : Bool) : Nat → Composer → List Node × Composer
  | 0, s => ([.cut s.endless], s.fail s.endless)
  | fuel + 1, s =>
    match s.problem, nextEntry first .flowSequenceEnd .sequenceComma (.flowSequence, start) s with
    | some problem, _ => ([.cut problem], s)
    | none, .error problem => ([.cut problem], s.fail problem)
    | none, .ok s =>
      match s.kind with
      | .flowSequenceEnd => ([], s.skip)
      | .key =>
        let mark := s.head.start
        let (only, s) := pair endsFlowItem .flow fuel s
        let (items, s) := flowItems start false fuel s
        (.mapping mark none [only] :: items, s)
      | _ =>
        let (item, s) := node .flow fuel s
        let (items, s) := flowItems start false fuel s
        (item :: items, s)

def flowPairs (start : Mark) (first : Bool) : Nat → Composer → List (Node × Node) × Composer
  | 0, s => cutPairs s.endless s
  | fuel + 1, s =>
    match s.problem, nextEntry first .flowMappingEnd .mappingComma (.flowMapping, start) s with
    | some problem, _ => cutPairs problem s
    | none, .error problem => cutPairs problem s
    | none, .ok s =>
      match s.kind with
      | .flowMappingEnd => ([], s.skip)
      | .key =>
        let (first, s) := pair endsFlowPart .flow fuel s
        let (pairs, s) := flowPairs start false fuel s
        (first :: pairs, s)
      | _ =>
        let (key, s) := node .flow fuel s
        let value := match s.problem with
          | some problem => Node.cut problem
          | none => .nothing s.head.start
        let (pairs, s) := flowPairs start false fuel s
        ((key, value) :: pairs, s)

end

/-- The tag handles that need no directive. -/
def defaultHandles : List (String × Tag) :=
  [("!", Text.Utf8.encode "!"), ("!!", Text.Utf8.encode "tag:yaml.org,2002:")]

/-- Reads directives: at most one version, which must be known, and each handle once. -/
def directives (seenVersion : Bool) (seen : List (String × Tag)) :
    Nat → Composer → Except Problem Composer
  | 0, s => .error s.endless
  | fuel + 1, s =>
    match s.kind with
    | .versionDirective major minor =>
      if seenVersion then .error (s.misfit .repeatedVersion none)
      else if major ≠ 1 || (minor ≠ 1 && minor ≠ 2) then .error (s.misfit .otherVersion none)
      else directives true seen fuel s.skip
    | .tagDirective handle uri =>
      if (seen.lookup handle).isSome then .error (s.misfit .repeatedHandle none)
      else directives seenVersion ((handle, uri) :: seen) fuel s.skip
    | .broken problem => .error problem
    | _ => .ok { s with handles := seen ++ s.handles }

/-- Whether a token begins a document that has a mark of its start. -/
def startsExplicit : TokenKind → Bool
  | .versionDirective _ _ => true
  | .tagDirective _ _ => true
  | .documentStart => true
  | _ => false

/-- Whether a token ends a document before its content. -/
def endsDocument (kind : TokenKind) : Bool :=
  startsExplicit kind || kind == .documentEnd || kind == .streamEnd

/-- Steps over marks of a document's end. -/
def skipDocumentEnds (s : Composer) : Composer :=
  { s with tokens := s.tokens.dropWhile (·.kind == .documentEnd) }

def surplus (s : Composer) : Option Problem :=
  match s.problem, s.kind with
  | some problem, _ => some problem
  | none, .broken problem => some problem
  | none, _ => if s.skipDocumentEnds.kind == .streamEnd then none else some .severalDocuments

/-- The document whose node was read. -/
def finish (read : Node × Composer) : Document := ⟨some read.1, read.2.anchored, read.2.surplus⟩

/-- A document of which nothing can be read. -/
def unread (problem : Problem) : Document := ⟨some (.cut problem), #[], some problem⟩

/-- Reads a document that has a mark of its start. -/
def explicit (fuel : Nat) (s : Composer) : Document :=
  match directives false [] fuel s with
  | .error problem => unread problem
  | .ok s =>
    if s.kind == .documentStart then
      finish (nodeUnless endsDocument s.skip.head.start .block fuel s.skip)
    else unread (s.misfit .documentStart none)

end Composer

/-- The document of a stream. -/
def parse (text : String) : Document :=
  let tokens := scan text
  let fuel := 6 * tokens.length + 12
  let s : Composer := ⟨tokens, Composer.defaultHandles, [], #[], none⟩
  if s.kind == .streamEnd then ⟨none, #[], none⟩
  else if Composer.startsExplicit s.kind then Composer.explicit fuel s
  else Composer.finish (Composer.node .block fuel s)

end LineScope.Yaml
