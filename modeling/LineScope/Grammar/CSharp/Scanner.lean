import LineScope.Grammar.Parse

/-!
# Strings of C# with code in them

Where interpolated strings and raw strings begin, go on and end, and where code interrupts them.
-/
namespace LineScope.Grammar.CSharp

/-- How the text of an interpolated string is read. -/
inductive Style where
  /-- A backslash escapes, and the string ends with the line. -/
  | regular
  /-- A quote escapes a quote. -/
  | verbatim
  /-- Nothing escapes, and as many quotes close the string as opened it. -/
  | raw
  deriving DecidableEq, Repr

/-- An interpolated string that is open: how many braces interrupt it, how many braces opened the code
in it, and how many quotes opened it. -/
structure Interpolation where
  dollars : Nat
  braces : Nat
  quotes : Nat
  style : Style
  deriving DecidableEq, Repr

/-- What the scanner remembers: the quotes of the raw string around it, and the interpolated strings
around it, the innermost first. -/
structure Memory where
  quotes : Nat
  around : List Interpolation
  deriving DecidableEq, Repr

instance : Inhabited Memory := ⟨⟨0, []⟩⟩

/-! ## Kinds of tokens

The tokens that the scanner looks for, by their places in the list of the grammar. -/

namespace Kind

def semicolon : Nat := 0
def regularStart : Nat := 1
def verbatimStart : Nat := 2
def rawInterpolationStart : Nat := 3
def startQuote : Nat := 4
def endQuote : Nat := 5
def openBrace : Nat := 6
def closeBrace : Nat := 7
def content : Nat := 8
def rawStart : Nat := 9
def rawEnd : Nat := 10
def rawContent : Nat := 11

end Kind

def isBlank (c : Char) : Bool := c == ' ' || ('\t' ≤ c && c ≤ '\r')

/-- How many quotes come first. -/
def quotesAhead (c : Cursor) : Nat := c.runLength (· == '"')

/-! ## Raw strings -/

/-- Where the content of a raw string stops: in front of as many quotes as opened it. The character after
quotes of another number belongs to the content, whatever it is. -/
def rawStop (quotes : Nat) (c : Cursor) : Cursor :=
  if _more : c.peek = '\x00' then c
  else if c.peek = '"' then
    let count := quotesAhead c
    if count = quotes then c else rawStop quotes (c.next.skipWhile (· == '"')).next
  else rawStop quotes c.next
termination_by c.rest.length
decreasing_by
  · have h1 := Cursor.length_next_lt _more
    have h2 := Cursor.length_skipWhile_le (· == '"') c.next
    have h3 := Cursor.length_next_le (c.next.skipWhile (· == '"'))
    omega
  · exact Cursor.length_next_lt _more

/-! ## Interpolated strings -/

/-- The start of an interpolated string. -/
def scanInterpolation (m : Memory) (c : Cursor) : Option (Scan Memory) :=
  let first := c.peek == '@'
  let marks := c.nextIf (· == '@')
  let dollars := marks.runLength (· == '$')
  let after := marks.skip dollars
  let second := after.peek == '@'
  if dollars = 0 || !(second || after.peek == '"') then none
  else
    let verbatim := first || second
    let quote := after.nextIf (· == '@')
    let opened (token : Nat) (style : Style) : Option (Scan Memory) :=
      some ⟨token, c, quote, { m with around := ⟨dollars % 256, 0, 0, style⟩ :: m.around }⟩
    if verbatim then opened Kind.verbatimStart .verbatim
    else if quote.next.peek == '"' && quote.next.next.peek == '"' then
      opened Kind.rawInterpolationStart .raw
    else opened Kind.regularStart .regular

/-- What a step through the text of an interpolated string comes to. -/
inductive Halt where
  /-- The text stops. -/
  | stop (c : Cursor)
  /-- An escaped quote was read. -/
  | again (c : Cursor)
  /-- The text goes on with the next character, after a number of braces. -/
  | goOn (braces : Nat) (c : Cursor)

/-- Whether quotes in front of a reader end the text. -/
def haltAtQuote (i : Interpolation) (braces : Nat) (c : Cursor) : Halt :=
  if c.peek ≠ '"' then
    if i.style = .regular && (c.peek = '\\' || c.peek = '\n') then .stop c else .goOn braces c
  else
    match i.style with
    | .regular => .stop c
    | .verbatim => if c.next.peek = '"' then .again c.next.next else .stop c
    | .raw =>
      let count := quotesAhead c
      if 2 ≤ count && count = i.quotes then .stop c else .goOn braces (c.skip count)

/-- Whether braces in front of a reader end the text: as many as interrupt it, and not more. -/
def haltAtBrace (i : Interpolation) (braces : Nat) (c : Cursor) : Halt :=
  if c.peek ≠ '\x7b' then .goOn braces c
  else
    let count := min (i.dollars - braces) (c.runLength (· == '\x7b'))
    let after := c.skip count
    if braces + count = i.dollars && after.peek ≠ '\x7b' then .stop c
    else .goOn (braces + count) after

theorem length_again_lt {i : Interpolation} {braces : Nat} {c after : Cursor}
    (more : c.peek ≠ '\x00') (h : haltAtQuote i braces c = .again after) :
    after.rest.length < c.rest.length := by
  unfold haltAtQuote at h
  split at h
  · split at h <;> cases h
  · split at h
    · cases h
    · split at h
      · cases h
        exact Nat.lt_of_le_of_lt (Cursor.length_next_le _) (Cursor.length_next_lt more)
      · cases h
    · simp only at h
      split at h <;> cases h

theorem length_haltAtQuote_le {i : Interpolation} {braces taken : Nat} {c after : Cursor}
    (h : haltAtQuote i braces c = .goOn taken after) : after.rest.length ≤ c.rest.length := by
  unfold haltAtQuote at h
  split at h
  · split at h
    · cases h
    · cases h
      exact Nat.le_refl _
  · split at h
    · cases h
    · split at h <;> cases h
    · simp only at h
      split at h
      · cases h
      · cases h
        exact Cursor.length_skip_le _ _

theorem length_haltAtBrace_le {i : Interpolation} {braces taken : Nat} {c after : Cursor}
    (h : haltAtBrace i braces c = .goOn taken after) : after.rest.length ≤ c.rest.length := by
  unfold haltAtBrace at h
  split at h
  · cases h
    exact Nat.le_refl _
  · simp only at h
    split at h
    · cases h
    · cases h
      exact Cursor.length_skip_le _ _

/-- Where the text of an interpolated string stops, if there is text. Given are the braces that were read
last and whether text was read. -/
def textStop (i : Interpolation) (braces : Nat) (hasText : Bool) (c : Cursor) : Option Cursor :=
  let stopped (stop : Cursor) : Option Cursor := if hasText then some stop else none
  if _more : c.peek = '\x00' then stopped c
  else
    match _quote : haltAtQuote i braces c with
    | .stop stop => stopped stop
    | .again after => textStop i braces hasText after
    | .goOn taken after =>
      match _brace : haltAtBrace i taken after with
      | .stop stop => stopped stop
      | .again _ => none
      | .goOn taken after =>
        textStop i (if after.peek = '\x7b' then taken else 0) true after.next
termination_by c.rest.length
decreasing_by
  · exact length_again_lt _more _quote
  · have h1 := length_haltAtQuote_le _quote
    have h2 := length_haltAtBrace_le _brace
    exact Cursor.length_next_lt_of_le _more (Nat.le_trans h2 h1)

/-- What is found in an interpolated string: its end, the start of code, or text. -/
def scanText (m : Memory) (valid : Nat → Bool) (i : Interpolation) (outer : List Interpolation)
    (c : Cursor) : Option (Scan Memory) :=
  let quotes := if valid Kind.endQuote then quotesAhead c else 0
  let afterQuotes := c.skip quotes
  if valid Kind.endQuote && quotes = i.quotes then
    some ⟨Kind.endQuote, c, afterQuotes, { m with around := outer }⟩
  else
    let braces := if valid Kind.openBrace then min i.dollars (afterQuotes.runLength (· == '\x7b')) else 0
    let after := afterQuotes.skip braces
    if 0 < braces && braces = i.dollars && after.peek ≠ '\x7b' then
      some ⟨Kind.openBrace, c, after, { m with around := { i with braces } :: outer }⟩
    else if valid Kind.closeBrace then
      let start := after.skipWhile isBlank
      if 0 < i.braces && i.braces ≤ start.runLength (· == '\x7d') then
        some ⟨Kind.closeBrace, start, start.skip i.braces,
          { m with around := { i with braces := 0 } :: outer }⟩
      else none
    else if valid Kind.content then
      (textStop i braces (0 < quotes) after).map fun stop => ⟨Kind.content, c, stop, m⟩
    else none

/-! ## Tokens -/

/-- The quotes that open an interpolated string. -/
def scanStartQuote (m : Memory) (i : Interpolation) (outer : List Interpolation) (c : Cursor) :
    Option (Scan Memory) :=
  let ahead := quotesAhead c
  let quotes := if i.style = .raw then ahead else min 1 ahead
  if quotes = 0 then none
  else some ⟨Kind.startQuote, c, c.skip quotes,
    { m with around := { i with quotes := quotes % 256 } :: outer }⟩

/-- Looks for a token outside of raw strings. -/
def scanString (m : Memory) (valid : Nat → Bool) (c : Cursor) : Option (Scan Memory) :=
  let starts := [Kind.regularStart, Kind.verbatimStart, Kind.rawInterpolationStart].any valid
  let opened := if starts then scanInterpolation m (c.skipWhile isBlank) else none
  match opened, m.around with
  | some scan, _ => some scan
  | none, [] => none
  | none, i :: outer =>
    if valid Kind.startQuote then scanStartQuote m i outer c else scanText m valid i outer c

/-- Looks for a token. A semicolon that may be left out is always found. -/
def scan (m : Memory) (valid : Nat → Bool) (c : Cursor) : Option (Scan Memory) :=
  let blank := c.skipWhile isBlank
  let opening := if valid Kind.rawStart then quotesAhead blank else 0
  if valid Kind.semicolon then
    if valid Kind.regularStart then none
    else some ⟨Kind.semicolon, c, c.nextIf (· == ';'), m⟩
  else if 3 ≤ opening then
    some ⟨Kind.rawStart, blank, blank.skip opening, { m with quotes := opening % 256 }⟩
  else if 0 < opening then none
  else if valid Kind.rawEnd && 0 < quotesAhead c && quotesAhead c = m.quotes then
    some ⟨Kind.rawEnd, c, c.skip m.quotes, { m with quotes := 0 }⟩
  else if valid Kind.rawContent then some ⟨Kind.rawContent, c, rawStop m.quotes c, m⟩
  else scanString m valid c

def scanner : Scanner Memory := ⟨default, scan⟩

end LineScope.Grammar.CSharp
