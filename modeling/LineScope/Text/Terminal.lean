/-!
# Terminal sequences

What a text shows where control sequences have no effect: the sequences are left out, and so are control
characters that are not white space.
-/
namespace LineScope.Text.Terminal

/-- What the characters in front are part of. -/
inductive State where
  /-- Text. -/
  | ground
  /-- A sequence of which only the escape character is known. -/
  | escape
  /-- A sequence that one more letter or digit ends. -/
  | intermediate
  /-- A sequence with parameters, which a letter ends. -/
  | parameters
  /-- A command to the system, which a bell ends. -/
  | command
  /-- A string that only another sequence or the mark of its end ends. -/
  | string
  deriving DecidableEq, Repr

/-- The state after an ASCII character that has a given code. -/
def State.after (s : State) (n : Nat) : State :=
  if n = 0x18 || n = 0x1A then .ground
  else if n = 0x1B then .escape
  else
    match s with
    | .ground => .ground
    | .escape =>
      if n < 0x20 || n = 0x7F then .escape
      else if n < 0x30 then .intermediate
      else if n = 0x5B then .parameters
      else if n = 0x5D then .command
      else if n = 0x50 || n = 0x58 || n = 0x5E || n = 0x5F then .string
      else .ground
    | .intermediate => if 0x30 ≤ n && n ≤ 0x7E then .ground else .intermediate
    | .parameters => if 0x40 ≤ n && n ≤ 0x7E then .ground else .parameters
    | .command => if n = 0x07 then .ground else .command
    | .string => .string

def isSpace (c : Char) : Bool := c == ' ' || c == '\t' || c == '\n' || c == '\x0c' || c == '\r'

def isShown (c : Char) : Bool := (' ' ≤ c && c != '\x7f') || isSpace c

/-- Whether a sequence lets a control character that is white space through. -/
def State.letsThrough : State → Bool
  | .ground => true
  | .escape => true
  | .intermediate => true
  | .parameters => true
  | .command => false
  | .string => false

/-- What shows of characters. While characters show, the state is only looked at when one does not. -/
def visibleChars (shows : Bool) (s : State) : List Char → List Char
  | [] => []
  | c :: cs =>
    if 0x80 ≤ c.toNat then
      if shows || s = .ground then c :: visibleChars true .ground cs
      else
        -- The mark of the end of a string is the byte 9C.
        let ends : Bool := s = .string && (String.utf8EncodeChar c).contains 0x9C
        visibleChars false (if ends then .ground else s) cs
    else if isShown c && (shows || s = .ground || (c != ' ' && isSpace c && s.letsThrough)) then
      c :: visibleChars true s cs
    else visibleChars false (s.after c.toNat) cs

def visible (text : String) : String := String.ofList (visibleChars false .ground text.toList)

end LineScope.Text.Terminal
