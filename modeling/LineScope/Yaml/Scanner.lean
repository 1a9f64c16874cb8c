import LineScope.Text.Utf8
import LineScope.Yaml.Scalar

/-!
# Scanning YAML

Turning the characters of a stream into tokens. Block structure is shown by indentation: a deeper column
opens a collection and a shallower one closes those it leaves. A key without a mark of its own is found
out only at its colon, so its place among the tokens is remembered until then.
-/
namespace LineScope.Yaml

/-- A place where a key may have begun: the index its token would take, and whether the block around it
cannot do without a key there. -/
structure PossibleKey where
  required : Bool
  token : Nat
  mark : Mark
  deriving Repr

structure Scanner where
  cursor : Cursor
  tokens : Array Token
  /-- The column of the innermost block collection; none at the top. -/
  indent : Option Nat
  /-- The columns of the collections around it. -/
  outer : List (Option Nat)
  /-- How many flow collections are open. -/
  flow : Nat
  /-- Whether a key may begin here. -/
  keyAllowed : Bool
  /-- For each open flow collection and the block around them, innermost first, where a key may have
  begun. -/
  keys : List (Option PossibleKey)

namespace Scanner

/-- A stream before its first token. -/
def ofChars (cs : List Char) : Scanner :=
  ⟨.ofChars cs, #[], none, [], 0, true, [none]⟩

/-- Adds a token that starts at a mark and stops at a cursor, where the scan goes on. -/
def push (kind : TokenKind) (start : Mark) (c : Cursor) (s : Scanner) : Scanner :=
  { s with tokens := s.tokens.push ⟨kind, start, c.mark⟩, cursor := c }

/-- Adds a token that holds no characters. -/
def imply (kind : TokenKind) (s : Scanner) : Scanner := s.push kind s.cursor.mark s.cursor

/-- Puts a token that holds no characters in front of those from `index` on. -/
def insert (index : Nat) (kind : TokenKind) (mark : Mark) (s : Scanner) : Scanner :=
  { s with tokens := s.tokens.insertIdxIfInBounds index ⟨kind, mark, mark⟩ }

/-- A fault at the cursor that is not about what was being read. -/
def misplaced (s : Scanner) (fault : Fault) : Problem := .found fault s.cursor.mark none

/-- Steps over white space, comments and breaks, and over a byte order mark at the start of a line. A tab
is white space only where no key may begin, and a break lets a key begin in block context. -/
def skipToToken : Nat → Scanner → Scanner
  | 0, s => s
  | fuel + 1, s =>
    let c := if s.cursor.mark.column = 0 && s.cursor.looksAt '\uFEFF' then s.cursor.skip else s.cursor
    let tabs := s.flow != 0 || !s.keyAllowed
    let c := c.skipWhile fun x => x == ' ' || (tabs && x == '\t')
    let c := if c.looksAt '#' then c.skipWhile (!isBreak ·) else c
    if c.next isBreak then
      skipToToken fuel { s with cursor := c.skipBreak, keyAllowed := s.keyAllowed || s.flow == 0 }
    else { s with cursor := c }

/-- Gives up the places of keys that lie on an earlier line or too far back. -/
def dropStaleKeys (s : Scanner) : Except Problem Scanner := do
  let mark := s.cursor.mark
  let keys ← s.keys.mapM fun
    | none => pure none
    | some key =>
      if key.mark.line < mark.line ∨ key.mark.index + 1024 < mark.index then
        if key.required then throw (s.cursor.fault .missingColon .simpleKey key.mark) else pure none
      else pure (some key)
  return { s with keys }

/-- Gives up the place of a key at the innermost level. -/
def dropKey (s : Scanner) : Except Problem Scanner :=
  match s.keys with
  | some key :: keys =>
    if key.required then .error (s.cursor.fault .missingColon .simpleKey key.mark)
    else .ok { s with keys := none :: keys }
  | _ => .ok s

/-- Notes that a key may begin here. -/
def noteKey (s : Scanner) : Except Problem Scanner :=
  if s.keyAllowed then do
    let s ← s.dropKey
    let mark := s.cursor.mark
    let required := s.flow == 0 && s.indent == some mark.column
    return { s with keys := some ⟨required, s.tokens.size, mark⟩ :: s.keys.drop 1 }
  else .ok s

/-- Whether one indentation is deeper than another. -/
def deeper (column : Nat) : Option Nat → Bool
  | some n => decide (n < column)
  | none => true

/-- Opens a block collection at a column that is deeper than the innermost one; its token stands at
`index`. -/
def roll (column index : Nat) (kind : TokenKind) (mark : Mark) (s : Scanner) : Scanner :=
  if s.flow == 0 && deeper column s.indent then
    { s.insert index kind mark with indent := some column, outer := s.indent :: s.outer }
  else s

/-- Closes the block collections that are deeper than a column; none closes them all. -/
def unroll (column : Option Nat) (s : Scanner) : Scanner :=
  if s.flow = 0 then go s.outer s else s
where
  go : List (Option Nat) → Scanner → Scanner
    | [], s => s
    | parent :: outer, s =>
      match s.indent with
      | some n =>
        let closes : Bool := match column with
          | some column => decide (column < n)
          | none => true
        if closes then
          go outer { s.imply .blockEnd with indent := parent, outer := outer }
        else s
      | none => s

def take (n : Nat) (kind : TokenKind) (s : Scanner) : Scanner :=
  s.push kind s.cursor.mark (s.cursor.skipMany n)

/-- Closes all blocks in front of something that stands outside them. -/
def leaveBlocks (s : Scanner) : Except Problem Scanner := do
  let s ← (s.unroll none).dropKey
  return { s with keyAllowed := false }

/-- Reads the digits of a version; there are at most nine. -/
def readVersionPart (start : Mark) (c : Cursor) : Except Problem (Nat × Cursor) :=
  let digits := c.rest.takeWhile Char.isDigit
  if 9 < digits.length then .error ((c.skipMany 9).fault .longVersion .version start)
  else if digits.isEmpty then .error (c.fault .noVersion .version start)
  else .ok (Text.digitsValue 0 digits, c.skipMany digits.length)

/-- Whether a character can be part of a tag; some can only where the tag is set off. -/
def isTagChar (setOff : Bool) (x : Char) : Bool :=
  isWordChar x || ";/?:@&=+$.%!~*'()".toList.contains x || (setOff && ",[]".toList.contains x)

/-- How many bytes a character takes whose first byte is given. -/
def sequenceLength? (first : Nat) : Option Nat :=
  if first < 0x80 then some 1
  else if first < 0xC0 then none
  else if first < 0xE0 then some 2
  else if first < 0xF0 then some 3
  else if first < 0xF8 then some 4
  else none

/-- A byte that is written by its number after a percent sign. -/
def codedByte? : List Char → Option Nat
  | '%' :: x :: y :: _ => hexNumber? [x, y]
  | _ => none

/-- What is read as a tag: where it starts, and whether it is that of a directive. -/
structure TagPlace where
  start : Mark
  inDirective : Bool

namespace TagPlace

def uriFault (p : TagPlace) (c : Cursor) (fault : Fault) : Problem :=
  c.fault fault (if p.inDirective then .uriOfDirective else .uriOfTag) p.start

/-- Reads a number of further bytes of a character. -/
def readCodedTail (p : TagPlace) : Nat → Cursor → Except Problem (Tag × Cursor)
  | 0, c => .ok ([], c)
  | n + 1, c =>
    match codedByte? c.rest with
    | some byte =>
      if 0x80 ≤ byte && byte < 0xC0 then do
        let (bytes, c) ← p.readCodedTail n (c.skipMany 3)
        return (UInt8.ofNat byte :: bytes, c)
      else .error (p.uriFault c .uriTail)
    | none => .error (p.uriFault c .uriOctet)

/-- Reads a character that is written by the numbers of its bytes. -/
def readCoded (p : TagPlace) (c : Cursor) : Except Problem (Tag × Cursor) :=
  match codedByte? c.rest with
  | some byte =>
    match sequenceLength? byte with
    | some length => do
      let (bytes, c) ← p.readCodedTail (length - 1) (c.skipMany 3)
      return (UInt8.ofNat byte :: bytes, c)
    | none => .error (p.uriFault c .uriLead)
  | none => .error (p.uriFault c .uriOctet)

def readUri (p : TagPlace) (setOff : Bool) : Nat → Cursor → Except Problem (Tag × Cursor)
  | 0, c => .ok ([], c)
  | fuel + 1, c =>
    match c.rest with
    | x :: _ =>
      if isTagChar setOff x then do
        let (bytes, c) ← if x = '%' then p.readCoded c else pure (String.utf8EncodeChar x, c.skip)
        let (rest, c) ← p.readUri setOff fuel c
        return (bytes ++ rest, c)
      else .ok ([], c)
    | [] => .ok ([], c)

/-- Reads the characters of a tag that is not empty. A zero byte ends what it stands for. -/
def readText (p : TagPlace) (setOff : Bool) (c : Cursor) : Except Problem (Tag × Cursor) := do
  if !c.next (isTagChar setOff) then throw (p.uriFault c .tagUri)
  let (bytes, c) ← p.readUri setOff c.rest.length c
  return (bytes.takeWhile (· ≠ 0), c)

/-- Reads a tag's handle: an exclamation mark, or a word between two of them. In a directive, a word needs
both. -/
def readHandle (p : TagPlace) (c : Cursor) : Except Problem (List Char × Cursor) :=
  if !c.looksAt '!' then
    .error (c.fault .tagMark (if p.inDirective then .directiveHandle else .tag) p.start)
  else
    let c := c.skip
    let word := c.rest.takeWhile isWordChar
    let c := c.skipMany word.length
    if c.looksAt '!' then .ok ('!' :: word ++ ['!'], c.skip)
    else if p.inDirective && !word.isEmpty then .error (c.fault .tagMark .handleOfDirective p.start)
    else .ok ('!' :: word, c)

end TagPlace

def readVersion (start : Mark) (c : Cursor) : Except Problem (TokenKind × Cursor) := do
  let (major, c) ← readVersionPart start c
  if !c.looksAt '.' then throw (c.fault .versionDot .version start)
  let (minor, c) ← readVersionPart start c.skip
  return (.versionDirective major minor, c)

/-- Reads the handle that a directive is about, and what it stands for. -/
def readTagDirective (start : Mark) (c : Cursor) : Except Problem (TokenKind × Cursor) := do
  let place : TagPlace := ⟨start, true⟩
  let (handle, c) ← place.readHandle c
  if !c.next isBlank then throw (c.fault .directiveBlank .tagDirective start)
  let (uri, c) ← place.readText true (c.skipWhile isBlank)
  if !c.blankAfter 0 then throw (c.fault .tagEnd .tagDirective start)
  return (.tagDirective (String.ofList handle) uri, c)

def fetchDirective (s : Scanner) : Except Problem Scanner := do
  let s ← s.leaveBlocks
  let start := s.cursor.mark
  let c := s.cursor.skip
  let name := c.rest.takeWhile isWordChar
  let c := c.skipMany name.length
  if name.isEmpty then throw (c.fault .directiveName .directive start)
  if !c.blankAfter 0 then throw (c.fault .directiveCharacter .directive start)
  let (kind, c) ← match String.ofList name with
    | "YAML" => readVersion start (c.skipWhile isBlank)
    | "TAG" => readTagDirective start (c.skipWhile isBlank)
    | _ => throw (c.fault .unknownDirective .directive start)
  let after := c.skipLineEnd
  if !after.atBreak then throw (after.fault .directiveEnd .directive start)
  return { s.push kind start c with cursor := after.skipBreak }

def fetchDocumentMark (kind : TokenKind) (s : Scanner) : Except Problem Scanner := do
  return (← s.leaveBlocks).take 3 kind

def fetchFlowStart (kind : TokenKind) (s : Scanner) : Except Problem Scanner := do
  let s ← s.noteKey
  return { s.take 1 kind with flow := s.flow + 1, keys := none :: s.keys, keyAllowed := true }

def fetchFlowEnd (kind : TokenKind) (s : Scanner) : Except Problem Scanner := do
  let s ← s.dropKey
  let keys := if s.flow = 0 then s.keys else s.keys.drop 1
  return { s.take 1 kind with flow := s.flow - 1, keys, keyAllowed := false }

def fetchFlowEntry (s : Scanner) : Except Problem Scanner := do
  let s ← s.dropKey
  return { s.take 1 .flowEntry with keyAllowed := true }

def fetchBlockEntry (s : Scanner) : Except Problem Scanner := do
  if s.flow == 0 && !s.keyAllowed then throw (s.misplaced .misplacedEntry)
  let mark := s.cursor.mark
  let s ← (s.roll mark.column s.tokens.size .blockSequenceStart mark).dropKey
  return { s.take 1 .blockEntry with keyAllowed := true }

def fetchKey (s : Scanner) : Except Problem Scanner := do
  if s.flow == 0 && !s.keyAllowed then throw (s.misplaced .misplacedKey)
  let mark := s.cursor.mark
  let s ← (s.roll mark.column s.tokens.size .blockMappingStart mark).dropKey
  return { s.take 1 .key with keyAllowed := s.flow == 0 }

/-- Reads the colon of a value. If a key may have begun before it, that is the key. -/
def fetchValue (s : Scanner) : Except Problem Scanner :=
  let mark := s.cursor.mark
  match s.keys with
  | some key :: keys =>
    let s := s.insert key.token .key key.mark
    let s := s.roll key.mark.column key.token .blockMappingStart key.mark
    .ok { s.take 1 .value with keys := none :: keys, keyAllowed := false }
  | _ =>
    if s.flow == 0 && !s.keyAllowed then .error (s.misplaced .misplacedValue)
    else
      let s := s.roll mark.column s.tokens.size .blockMappingStart mark
      .ok { s.take 1 .value with keyAllowed := s.flow == 0 }

def fetchAnchor (kind : String → TokenKind) (activity : Activity) (s : Scanner) :
    Except Problem Scanner := do
  let s ← s.noteKey
  let start := s.cursor.mark
  let c := s.cursor.skip
  let name := c.rest.takeWhile isWordChar
  let c := c.skipMany name.length
  if name.isEmpty || !(c.blankAfter 0 || c.next fun x => "?:,]\x7d%@`".toList.contains x) then
    throw (c.fault .anchorName activity start)
  return { s.push (kind (String.ofList name)) start c with keyAllowed := false }

def fetchTag (s : Scanner) : Except Problem Scanner := do
  let s ← s.noteKey
  let c := s.cursor
  let start := c.mark
  let place : TagPlace := ⟨start, false⟩
  let (handle, suffix, c) ← match c.rest with
    | '!' :: '<' :: _ => do
      let (uri, c) ← place.readText true (c.skipMany 2)
      if !c.looksAt '>' then throw (c.fault .tagBracket .tag start)
      pure ("", uri, c.skip)
    | _ => do
      let (handle, c) ← place.readHandle c
      if 2 ≤ handle.length ∧ handle.getLast? = some '!' then
        let (uri, c) ← place.readText false c
        pure (String.ofList handle, uri, c)
      else
        let (uri, c) ← place.readUri false c.rest.length c
        match Text.Utf8.encodeChars (handle.drop 1) ++ uri.takeWhile (· ≠ 0) with
        | [] => pure ("", Text.Utf8.encode "!", c)
        | suffix => pure ("!", suffix, c)
  if !(c.blankAfter 0 || (s.flow != 0 && c.looksAt ',')) then throw (c.fault .tagEnd .tag start)
  return { s.push (.tag handle suffix) start c with keyAllowed := false }

def fetchBlockScalar (literal : Bool) (s : Scanner) : Except Problem Scanner := do
  let s ← s.dropKey
  let start := s.cursor.mark
  let (text, c) ← readBlock start literal s.indent s.cursor.skip
  let style := if literal then ScalarStyle.literal else .folded
  return { s.push (.scalar style text) start c with keyAllowed := true }

def fetchQuoted (single : Bool) (s : Scanner) : Except Problem Scanner := do
  let s ← s.noteKey
  let start := s.cursor.mark
  let c := s.cursor.skip
  let (text, c) ← readQuoted start single (c.rest.length + 1) [] c
  let style := if single then ScalarStyle.singleQuoted else .doubleQuoted
  return { s.push (.scalar style text) start c with keyAllowed := false }

/-- Reads a plain scalar. A key may begin after it if its line has ended. -/
def fetchPlain (s : Scanner) : Except Problem Scanner := do
  let s ← s.noteKey
  let start := s.cursor.mark
  let indent := match s.indent with
    | some n => n + 1
    | none => 0
  let (text, c, lineEnded) ←
    readPlain start (s.flow != 0) indent (s.cursor.rest.length + 1) [] (.blanks []) s.cursor
  return { s.push (.scalar .plain text) start c with keyAllowed := lineEnded }

def startsPlain (s : Scanner) (x : Char) : Bool :=
  let after := s.cursor.rest.drop 1
  let blankNext := s.cursor.blankAfter 1
  let indicator := "-?:,[]\x7b\x7d#&*!|>'\"%@`".toList.contains x
  !(indicator || isBlank x || isBreak x) || (x == '-' && !(after.head?.any isBlank)) ||
    (s.flow == 0 && (x == '?' || x == ':') && !blankNext)

def fetch (s : Scanner) : Except Problem Scanner := do
  let s ← (s.skipToToken (s.cursor.rest.length + 1)).dropStaleKeys
  let s := s.unroll (some s.cursor.mark.column)
  let c := s.cursor
  match c.rest with
  | [] => return (← ({ s with cursor := c.freshLine }).leaveBlocks).imply .streamEnd
  | x :: _ =>
    let inFlow := s.flow != 0
    let blankNext := c.blankAfter 1
    if c.mark.column == 0 && x == '%' then s.fetchDirective
    else if c.atDocumentMark then
      s.fetchDocumentMark (if x == '-' then .documentStart else .documentEnd)
    else if x == '[' then s.fetchFlowStart .flowSequenceStart
    else if x == '\x7b' then s.fetchFlowStart .flowMappingStart
    else if x == ']' then s.fetchFlowEnd .flowSequenceEnd
    else if x == '\x7d' then s.fetchFlowEnd .flowMappingEnd
    else if x == ',' then s.fetchFlowEntry
    else if x == '-' && blankNext then s.fetchBlockEntry
    else if x == '?' && (inFlow || blankNext) then s.fetchKey
    else if x == ':' && (inFlow || blankNext) then s.fetchValue
    else if x == '*' then s.fetchAnchor .alias .alias
    else if x == '&' then s.fetchAnchor .anchor .anchor
    else if x == '!' then s.fetchTag
    else if x == '|' && !inFlow then s.fetchBlockScalar true
    else if x == '>' && !inFlow then s.fetchBlockScalar false
    else if x == '\'' then s.fetchQuoted true
    else if x == '"' then s.fetchQuoted false
    else if s.startsPlain x then s.fetchPlain
    else throw (c.fault .tokenStart .nextToken c.mark)

/-- Whether the last token has been read. -/
def ended (s : Scanner) : Bool := s.tokens.back?.any (·.kind == .streamEnd)

/-- The tokens that are settled when the stream cannot be read on: those in front of the first one that
may still turn out to be a key. -/
def settled (s : Scanner) : Array Token :=
  let pending := s.keys.filterMap fun key => key.map (·.token)
  s.tokens.extract 0 (pending.foldl min s.tokens.size)

/-- Reads all tokens, up to the end of the stream or to where it cannot be read on. -/
def run : Nat → Scanner → Array Token
  | 0, s => s.tokens
  | fuel + 1, s =>
    let broken (s : Scanner) (problem : Problem) : Array Token :=
      s.settled.push ⟨.broken problem, s.cursor.mark, s.cursor.mark⟩
    match s.dropStaleKeys with
    | .error problem => broken s problem
    | .ok s =>
      match s.fetch with
      | .error problem => broken s problem
      | .ok s => if s.ended then s.tokens else run fuel s

end Scanner

/-- How many bytes come before the first character that no stream may hold, if there is one. -/
def forbidden? (offset : Nat) : List Char → Option Nat
  | [] => none
  | c :: cs => if isAllowed c then forbidden? (offset + c.utf8Size) cs else some offset

/-- The tokens of a stream. -/
def scan (text : String) : List Token :=
  let cs := text.toList
  match forbidden? 0 cs with
  | some offset => [⟨.broken (.forbidden offset), .start, .start⟩]
  | none => (Scanner.run (cs.length + 2) (.ofChars cs)).toList

end LineScope.Yaml
