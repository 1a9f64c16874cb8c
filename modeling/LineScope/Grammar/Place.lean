import LineScope.Tree.Source

/-!
# Places in a text

A reader of a text knows how far it has come, in bytes, rows and columns, and what is left.
-/
namespace LineScope.Grammar

structure Place where
  byte : Nat
  row : Nat
  column : Nat
  deriving DecidableEq, Repr

namespace Place

def start : Place := ⟨0, 0, 0⟩

/-- The place after a character. -/
def after (p : Place) (c : Char) : Place :=
  if c = '\n' then ⟨p.byte + 1, p.row + 1, 0⟩
  else ⟨p.byte + c.utf8Size, p.row, p.column + c.utf8Size⟩

def position (p : Place) : Position := ⟨UInt64.ofNat p.row, UInt64.ofNat p.column⟩

end Place

/-- A reader in a text: where it stands and what is left to read. -/
structure Cursor where
  place : Place
  rest : List Char

namespace Cursor

def ofText (text : String) : Cursor := ⟨.start, text.toList⟩

/-- The character in front of the reader; at the end of the text it is the zero character. -/
def peek (c : Cursor) : Char := c.rest.headD '\x00'

def atEnd (c : Cursor) : Bool := c.rest.isEmpty

/-- The reader after the next character; at the end of the text it stays. -/
def next (c : Cursor) : Cursor :=
  match c.rest with
  | [] => c
  | x :: rest => ⟨c.place.after x, rest⟩

/-- The reader after a character with a property, or where it was. -/
def nextIf (p : Char → Bool) (c : Cursor) : Cursor := if p c.peek then c.next else c

/-- The reader after the leading characters with a property. -/
def skipWhile (p : Char → Bool) (c : Cursor) : Cursor := go c.place c.rest
where
  go (place : Place) : List Char → Cursor
    | [] => ⟨place, []⟩
    | x :: rest => if p x then go (place.after x) rest else ⟨place, x :: rest⟩

def skip : Nat → Cursor → Cursor
  | 0, c => c
  | n + 1, c => skip n c.next

/-- How many characters with a property come first. -/
def runLength (p : Char → Bool) (c : Cursor) : Nat := (c.rest.takeWhile p).length

/-! Reading on leaves less to read. -/

theorem length_next_le (c : Cursor) : c.next.rest.length ≤ c.rest.length := by
  unfold next
  split
  · exact Nat.le_refl _
  · rename_i h
    simp [h]

theorem length_next_lt {c : Cursor} (h : c.peek ≠ '\x00') : c.next.rest.length < c.rest.length := by
  cases hr : c.rest with
  | nil => simp [peek, hr] at h
  | cons x rest => simp [next, hr]

theorem length_nextIf_le (p : Char → Bool) (c : Cursor) :
    (c.nextIf p).rest.length ≤ c.rest.length := by
  unfold nextIf
  split
  · exact length_next_le c
  · exact Nat.le_refl _

theorem length_go_le (p : Char → Bool) (place : Place) (cs : List Char) :
    (skipWhile.go p place cs).rest.length ≤ cs.length := by
  induction cs generalizing place with
  | nil => simp [skipWhile.go]
  | cons x rest ih =>
    unfold skipWhile.go
    split
    · exact Nat.le_succ_of_le (ih _)
    · exact Nat.le_refl _

theorem length_skipWhile_le (p : Char → Bool) (c : Cursor) :
    (c.skipWhile p).rest.length ≤ c.rest.length := length_go_le p c.place c.rest

theorem length_skip_le (n : Nat) (c : Cursor) : (c.skip n).rest.length ≤ c.rest.length := by
  induction n generalizing c with
  | zero => exact Nat.le_refl _
  | succ n ih => exact Nat.le_trans (ih c.next) (length_next_le c)

theorem length_next_lt_of_le {c d : Cursor} (more : c.peek ≠ '\x00')
    (h : d.rest.length ≤ c.rest.length) : d.next.rest.length < c.rest.length := by
  have hc := length_next_lt more
  unfold next
  split
  · rename_i hd
    simp only [hd, List.length_nil]
    omega
  · rename_i hd
    simp only [hd, List.length_cons] at h
    exact h

end Cursor

end LineScope.Grammar
