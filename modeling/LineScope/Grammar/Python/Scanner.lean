import LineScope.Grammar.Parse

/-!
# Lines and strings of Python

Where a line ends, where the indentation grows and shrinks, and where strings begin, go on and end.
-/
namespace LineScope.Grammar.Python

/-- How a string was opened. -/
structure Quote where
  mark : Char
  raw : Bool
  format : Bool
  bytes : Bool
  triple : Bool
  deriving DecidableEq, Repr

/-- What the scanner remembers: the indentations of the blocks around it, the innermost first, the
strings around it, and whether it is in a format string. -/
structure Memory where
  indents : List Nat
  quotes : List Quote
  inFormat : Bool
  deriving DecidableEq, Repr

instance : Inhabited Memory := ⟨⟨[0], [], false⟩⟩

/-! ## Kinds of tokens

The tokens that the scanner looks for, by their places in the list of the grammar. -/

namespace Kind

def newline : Nat := 0
def indent : Nat := 1
def dedent : Nat := 2
def stringStart : Nat := 3
def stringContent : Nat := 4
def escapeInterpolation : Nat := 5
def stringEnd : Nat := 6
def closers : List Nat := [8, 9, 10]
def exceptWord : Nat := 11

end Kind

/-! ## Strings -/

/-- What a scan came to: nothing, a token, or that the scan goes on with something else. -/
inductive Outcome where
  | nothing
  | found (scan : Scan Memory)
  | onward

/-- The memory after the innermost string. -/
def Memory.close (m : Memory) : Memory := { m with quotes := m.quotes.tail, inFormat := false }

/-- What is found at the mark of a string: content up to it, or the end of the string. The reader stands
in front of the mark. -/
def atMark (m : Memory) (q : Quote) (start c : Cursor) (hasContent : Bool) : Scan Memory :=
  let content (stop : Cursor) : Scan Memory := ⟨Kind.stringContent, start, stop, m⟩
  if q.triple then
    let one := c.next
    if one.peek == q.mark then
      let two := one.next
      if two.peek == q.mark then
        if hasContent then content c else ⟨Kind.stringEnd, start, two.next, m.close⟩
      else content two
    else content one
  else if hasContent then content c
  else ⟨Kind.stringEnd, start, c.next, m.close⟩

/-- The reader after a backslash of a raw string and what it escapes. -/
def afterEscape (q : Quote) (c : Cursor) : Cursor :=
  let c := c.next.nextIf fun y => y == q.mark || y == '\\'
  if c.peek == '\r' then c.next.nextIf (· == '\n') else c.nextIf (· == '\n')

theorem length_afterEscape_lt {q : Quote} {c : Cursor} (h : c.peek ≠ '\x00') :
    (afterEscape q c).rest.length < c.rest.length := by
  have hn := Cursor.length_next_lt h
  have hi := Cursor.length_nextIf_le (fun y => y == q.mark || y == '\\') c.next
  unfold afterEscape
  simp only
  split
  · have h1 := Cursor.length_nextIf_le (· == '\n')
      (c.next.nextIf fun y => y == q.mark || y == '\\').next
    have h2 := Cursor.length_next_le (c.next.nextIf fun y => y == q.mark || y == '\\')
    omega
  · have h1 := Cursor.length_nextIf_le (· == '\n')
      (c.next.nextIf fun y => y == q.mark || y == '\\')
    omega

/-- The content of a string, or its end. What is escaped in a raw string does not count as content. -/
def scanContent (m : Memory) (q : Quote) (start c : Cursor) (hasContent : Bool) : Outcome :=
  let content (stop : Cursor) : Outcome :=
    if hasContent then .found ⟨Kind.stringContent, start, stop, m⟩ else .nothing
  if _more : c.peek = '\x00' then .onward
  else if (c.peek == '\x7b' || c.peek == '\x7d') && q.format then content c
  else if c.peek == '\\' then
    if q.raw then scanContent m q start (afterEscape q c) hasContent
    else if q.bytes then
      let after := c.next
      if after.peek == 'N' || after.peek == 'u' || after.peek == 'U' then
        scanContent m q start after.next.next true
      else content c
    else content c
  else if c.peek == q.mark then .found (atMark m q start c hasContent)
  else if c.peek == '\n' && hasContent && !q.triple then .nothing
  else scanContent m q start c.next true
termination_by c.rest.length
decreasing_by
  · exact length_afterEscape_lt _more
  · have h1 := Cursor.length_next_lt _more
    have h2 := Cursor.length_next_le c.next
    have h3 := Cursor.length_next_le c.next.next
    omega
  · exact Cursor.length_next_lt _more

def scanFlags (q : Quote) (c : Cursor) : Quote × Cursor :=
  let x := c.peek
  if _more : c.peek = '\x00' then (q, c)
  else if x == 'f' || x == 'F' then scanFlags { q with format := true } c.next
  else if x == 'r' || x == 'R' then scanFlags { q with raw := true } c.next
  else if x == 'b' || x == 'B' then scanFlags { q with bytes := true } c.next
  else if x == 'u' || x == 'U' then scanFlags q c.next
  else (q, c)
termination_by c.rest.length
decreasing_by all_goals exact Cursor.length_next_lt _more

def scanStart (m : Memory) (c : Cursor) : Option (Scan Memory) :=
  let (q, c') := scanFlags ⟨'\x00', false, false, false, false⟩ c
  let opened (q : Quote) (stop : Cursor) : Option (Scan Memory) :=
    some ⟨Kind.stringStart, c, stop, { m with quotes := q :: m.quotes, inFormat := q.format }⟩
  let mark := c'.peek
  if mark == '`' then opened { q with mark } c'.next
  else if mark == '\'' || mark == '"' then
    let one := c'.next
    if one.peek == mark && one.next.peek == mark then
      opened { q with mark, triple := true } one.next.next
    else opened { q with mark } one
  else none

/-! ## Lines -/

/-- What lies in front of the next token: whether a line ended, the indentation after it, and that of the
first comment on a line of its own. -/
structure Layout where
  ended : Bool
  indent : Nat
  comment : Option Nat

/-- Reads white space and, where layout matters, comments. Nothing is found where a comment follows
something on its line, or where a backslash is not at the end of a line. -/
def scanLayout (matters : Bool) (c : Cursor) (l : Layout) : Option (Cursor × Layout) :=
  let x := c.peek
  if _more : c.peek = '\x00' then
    some (c, if c.atEnd then { l with ended := true, indent := 0 } else l)
  else if x == '\n' then scanLayout matters c.next { l with ended := true, indent := 0 }
  else if x == ' ' then scanLayout matters c.next { l with indent := l.indent + 1 }
  else if x == '\r' || x == '\x0c' then scanLayout matters c.next { l with indent := 0 }
  else if x == '\t' then scanLayout matters c.next { l with indent := l.indent + 8 }
  else if x == '#' && matters then
    if l.ended then
      scanLayout matters (c.next.skipWhile fun y => y != '\n' && y != '\x00').next
        { l with indent := 0, comment := l.comment <|> some l.indent }
    else none
  else if x == '\\' then
    let after := c.next.nextIf (· == '\r')
    if after.peek == '\n' || after.atEnd then scanLayout matters after.next l else none
  else some (c, l)
termination_by c.rest.length
decreasing_by
  · exact Cursor.length_next_lt _more
  · exact Cursor.length_next_lt _more
  · exact Cursor.length_next_lt _more
  · exact Cursor.length_next_lt _more
  · have h1 := Cursor.length_next_lt _more
    have h2 := Cursor.length_skipWhile_le (fun y => y != '\n' && y != '\x00') c.next
    have h3 := Cursor.length_next_le (c.next.skipWhile fun y => y != '\n' && y != '\x00')
    omega
  · have h1 := Cursor.length_next_lt _more
    have h2 := Cursor.length_nextIf_le (· == '\r') c.next
    have h3 := Cursor.length_next_le (c.next.nextIf (· == '\r'))
    omega

/-- The ends of lines and the starts and ends of blocks. -/
def scanLine (m : Memory) (valid : Nat → Bool) (recovering : Bool) (start c : Cursor) (l : Layout) :
    Option (Scan Memory) :=
  let current := m.indents.headD 0
  let nextIsQuote := c.peek == '"' || c.peek == '\'' || c.peek == '`'
  let inBrackets := Kind.closers.any valid
  if !l.ended then none
  else if !m.indents.isEmpty && valid Kind.indent && current < l.indent then
    some ⟨Kind.indent, start, start, { m with indents := l.indent :: m.indents }⟩
  else if !m.indents.isEmpty &&
      (valid Kind.dedent ||
        (!valid Kind.newline && !(valid Kind.stringStart && nextIsQuote) && !inBrackets)) &&
      l.indent < current && !m.inFormat &&
      (match l.comment with
        | some indent => decide (indent < current)
        | none => true) then
    some ⟨Kind.dedent, start, start, { m with indents := m.indents.tail }⟩
  else if valid Kind.newline && !recovering then some ⟨Kind.newline, start, start, m⟩
  else none

/-- Looks for a token between strings. -/
def scanOutside (m : Memory) (valid : Nat → Bool) (recovering : Bool) (c : Cursor) :
    Option (Scan Memory) :=
  let matters := [Kind.indent, Kind.dedent, Kind.newline, Kind.exceptWord].any valid
  match scanLayout matters c ⟨false, 0, none⟩ with
  | none => none
  | some (after, l) =>
    match scanLine m valid recovering c after l with
    | some scan => some scan
    | none =>
      if l.comment.isNone && valid Kind.stringStart then scanStart m after else none

/-- Looks for a token. -/
def scan (m : Memory) (valid : Nat → Bool) (c : Cursor) : Option (Scan Memory) :=
  let recovering := valid Kind.stringContent && valid Kind.indent
  let atBrace := c.peek == '\x7b' || c.peek == '\x7d'
  match m.quotes.head? with
  | some q =>
    if recovering then scanOutside m valid recovering c
    else if valid Kind.escapeInterpolation && atBrace && q.format then
      -- A brace that is not doubled is no content.
      if c.next.peek == c.peek then some ⟨Kind.escapeInterpolation, c, c.next.next, m⟩ else none
    else if valid Kind.stringContent then
      match scanContent m q c c false with
      | .found scan => some scan
      | .nothing => none
      | .onward => scanOutside m valid recovering c
    else scanOutside m valid recovering c
  | none => scanOutside m valid recovering c

def scanner : Scanner Memory := ⟨default, scan⟩

end LineScope.Grammar.Python
