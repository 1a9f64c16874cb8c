import LineScope.Grammar.Parse

/-!
# Comments, raw strings and fractions of Rust

What stands in comments, where raw strings begin and end, and which numbers have a fraction or an
exponent. The scanner remembers how many number signs the last raw string was opened with.
-/
namespace LineScope.Grammar.Rust

/-! ## Kinds of tokens

The tokens that the scanner looks for, by their places in the list of the grammar. -/

namespace Kind

def stringContent : Nat := 0
def rawStart : Nat := 1
def rawContent : Nat := 2
def rawEnd : Nat := 3
def float : Nat := 4
def outerMark : Nat := 5
def innerMark : Nat := 6
def blockContent : Nat := 7
def lineContent : Nat := 8
def recovery : Nat := 9

end Kind

/-! ## Comments -/

/-- What the last character of a block comment may be the first half of. -/
inductive Half where
  | none
  | slash
  | star
  deriving DecidableEq, Repr

/-- What is looked at of a character in a block comment: its last eight bits. -/
def lastByte (c : Char) : Char := Char.ofNat (c.toNat % 256)

/-- Where the content of a block comment stops, in which block comments may be nested. Given are how many
comments are open, where the content stops so far, and the place of what is left. -/
def blockStop (half : Half) (depth : Nat) (stop : Cursor) (place : Place) : List Char → Cursor
  | [] => stop
  | c :: rest =>
    if depth = 0 then stop
    else
      let x := lastByte c
      let here : Cursor := ⟨place, c :: rest⟩
      let after : Cursor := ⟨place.after c, rest⟩
      let (half, depth, stop) : Half × Nat × Cursor := match half with
        | .slash => (.none, if x == '*' then depth + 1 else depth, stop)
        | .star =>
          if x == '*' then (.star, depth, here)
          else (.none, if x == '/' then depth - 1 else depth, stop)
        | .none => (if x == '/' then .slash else if x == '*' then .star else .none, depth, here)
      blockStop half depth (if x == '/' && depth ≠ 0 then after else stop) after.place rest

/-- A mark of a documenting block comment, or the content of a block comment. Two stars after the slash
are a mark, and three or more are not. -/
def scanBlock (memory : Nat) (valid : Nat → Bool) (c : Cursor) : Option (Scan Nat) :=
  let first := lastByte c.peek
  let after := c.next
  let content (stop : Cursor) : Option (Scan Nat) :=
    if !valid Kind.blockContent || (first == '*' && after.peek == '/') then none
    else
      let half : Half := if first == '*' then .star else if first == '/' then .slash else .none
      some ⟨Kind.blockContent, c, blockStop half 1 stop after.place after.rest, memory⟩
  if valid Kind.innerMark && first == '!' then some ⟨Kind.innerMark, c, after, memory⟩
  else if valid Kind.outerMark && first == '*' then
    if after.peek == '/' then none
    else if after.peek ≠ '*' then some ⟨Kind.outerMark, c, after, memory⟩
    else content after
  else content c

/-! ## Strings -/

def scanString (memory : Nat) (c : Cursor) : Option (Scan Nat) :=
  let stop := c.skipWhile fun x => x ≠ '"' && x ≠ '\\'
  if stop.atEnd || stop.place = c.place then none
  else some ⟨Kind.stringContent, c, stop, memory⟩

def scanRawStart (c : Cursor) : Option (Scan Nat) :=
  let r := c.nextIf fun x => x == 'b' || x == 'c'
  if r.peek ≠ 'r' then none
  else
    let signs := r.next.runLength (· == '#')
    let quote := r.next.skip signs
    if quote.peek = '"' then some ⟨Kind.rawStart, c, quote.next, signs % 256⟩ else none

/-- Where the content of a raw string stops: in front of the first quote that enough number signs
follow. -/
def rawStop (signs : Nat) (place : Place) : List Char → Option Cursor
  | [] => none
  | x :: rest =>
    if x == '"' && signs ≤ (rest.takeWhile (· == '#')).length then some ⟨place, x :: rest⟩
    else rawStop signs (place.after x) rest

/-! ## Numbers -/

def isNumeric (c : Char) : Bool := c == '_' || c.isDigit

/-- A number with a fraction or an exponent. A point in front of a name or of another point is none of a
fraction. -/
def scanFloat (memory : Nat) (c : Cursor) : Option (Scan Nat) :=
  let found (stop : Cursor) : Option (Scan Nat) := some ⟨Kind.float, c, stop, memory⟩
  let whole := c.next.skipWhile isNumeric
  let hasFraction := whole.peek == '.'
  let point := whole.next
  if hasFraction && (point.peek.isAlpha || point.peek == '.') then none
  else
    let number := if hasFraction then point.skipWhile isNumeric else whole
    let hasExponent := number.peek == 'e' || number.peek == 'E'
    let exponent := number.next.nextIf fun x => x == '+' || x == '-'
    if hasExponent && !isNumeric exponent.peek then found number
    else if !hasExponent && !hasFraction then none
    else
      let number := if hasExponent then exponent.skipWhile isNumeric else number
      let bits := number.next
      if (number.peek == 'u' || number.peek == 'i' || number.peek == 'f') && bits.peek.isDigit then
        found (bits.skipWhile Char.isDigit)
      else found number

/-! ## Tokens -/

def isBlank (c : Char) : Bool := c == ' ' || ('\t' ≤ c && c ≤ '\r')

/-- Looks for a token. -/
def scan (memory : Nat) (valid : Nat → Bool) (c : Cursor) : Option (Scan Nat) :=
  if valid Kind.recovery then none
  else if valid Kind.blockContent || valid Kind.innerMark || valid Kind.outerMark then
    scanBlock memory valid c
  else if valid Kind.stringContent && !valid Kind.float then scanString memory c
  else if valid Kind.lineContent then
    some ⟨Kind.lineContent, c, (c.skipWhile (· ≠ '\n')).next, memory⟩
  else
    let c := c.skipWhile isBlank
    let x := c.peek
    if valid Kind.rawStart && (x == 'r' || x == 'b' || x == 'c') then scanRawStart c
    else if valid Kind.rawContent then
      (rawStop memory c.place c.rest).map fun stop => ⟨Kind.rawContent, c, stop, memory⟩
    else if valid Kind.rawEnd && x == '"' then
      some ⟨Kind.rawEnd, c, c.skip (memory + 1), memory⟩
    else if valid Kind.float && x.isDigit then scanFloat memory c
    else none

def scanner : Scanner Nat := ⟨0, scan⟩

end LineScope.Grammar.Rust
