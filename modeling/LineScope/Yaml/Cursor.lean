import LineScope.Yaml.Token

/-!
# Reading characters of a YAML stream

A cursor is the rest of a stream and the place it starts at. The classes of characters are those of the
format: blanks are spaces and tabs, and a break ends a line.
-/
namespace LineScope.Yaml

/-- Whether a stream may hold the character. -/
def isAllowed (c : Char) : Bool :=
  let n := c.toNat
  n == 0x09 || n == 0x0A || n == 0x0D || (0x20 ≤ n && n ≤ 0x7E) || n == 0x85 ||
    (0xA0 ≤ n && n ≤ 0xD7FF) || (0xE000 ≤ n && n ≤ 0xFFFD) || 0x10000 ≤ n

/-- A space or a tab. -/
def isBlank (c : Char) : Bool := c == ' ' || c == '\t'

def isBreak (c : Char) : Bool :=
  c == '\r' || c == '\n' || c == '\u0085' || c == '\u2028' || c == '\u2029'

def isWordChar (c : Char) : Bool := c.isAlphanum || c == '_' || c == '-'

/-- The rest of a stream and where it starts. -/
structure Cursor where
  rest : List Char
  mark : Mark
  deriving Repr

namespace Cursor

def ofChars (cs : List Char) : Cursor := ⟨cs, .start⟩

/-- A fault here, while something was being read from a mark on. -/
def fault (c : Cursor) (fault : Fault) (activity : Activity) (start : Mark) : Problem :=
  .found fault c.mark (some (activity, start))

/-- Whether the next character has a property. -/
def next (c : Cursor) (p : Char → Bool) : Bool :=
  match c.rest with
  | x :: _ => p x
  | [] => false

def looksAt (c : Cursor) (x : Char) : Bool := c.next (· == x)

/-- Whether a blank, a break or the end of the stream stands after `n` characters. -/
def blankAfter (c : Cursor) (n : Nat) : Bool :=
  match c.rest.drop n with
  | x :: _ => isBlank x || isBreak x
  | [] => true

/-- Whether the line or the stream ends here. -/
def atBreak (c : Cursor) : Bool :=
  match c.rest with
  | x :: _ => isBreak x
  | [] => true

/-- Steps over a character of a line. -/
def skip (c : Cursor) : Cursor :=
  match c.rest with
  | x :: rest =>
    ⟨rest, { c.mark with index := c.mark.index + x.utf8Size, column := c.mark.column + 1 }⟩
  | [] => c

/-- How many bytes the first `n` characters take. -/
def bytesOf (n : Nat) (c : Cursor) : Nat := (c.rest.take n).foldl (fun bytes x => bytes + x.utf8Size) 0

def skipMany (n : Nat) (c : Cursor) : Cursor :=
  ⟨c.rest.drop n,
    { c.mark with index := c.mark.index + c.bytesOf n, column := c.mark.column + n }⟩

def skipWhile (p : Char → Bool) (c : Cursor) : Cursor := c.skipMany (c.rest.takeWhile p).length

/-- Steps over a break; a carriage return and a line feed are one. -/
def skipBreak (c : Cursor) : Cursor :=
  match c.rest with
  | '\r' :: '\n' :: rest => ⟨rest, ⟨c.mark.index + 2, c.mark.line + 1, 0⟩⟩
  | x :: rest => ⟨rest, ⟨c.mark.index + x.utf8Size, c.mark.line + 1, 0⟩⟩
  | [] => c

/-- The place where the stream ends is at the start of a line. -/
def freshLine (c : Cursor) : Cursor :=
  if c.mark.column = 0 then c else { c with mark := { c.mark with line := c.mark.line + 1, column := 0 } }

/-- The break that stands here, as it is kept in a scalar. -/
def breakText (c : Cursor) : List Char :=
  match c.rest with
  | '\u2028' :: _ => ['\u2028']
  | '\u2029' :: _ => ['\u2029']
  | _ => ['\n']

def atDocumentMark (c : Cursor) : Bool :=
  c.mark.column == 0 && c.blankAfter 3 &&
    ("---".toList.isPrefixOf c.rest || "...".toList.isPrefixOf c.rest)

/-- Steps over the blanks and the comment that may end a line. -/
def skipLineEnd (c : Cursor) : Cursor :=
  let c := c.skipWhile isBlank
  if c.looksAt '#' then c.skipWhile (!isBreak ·) else c

end Cursor

end LineScope.Yaml
