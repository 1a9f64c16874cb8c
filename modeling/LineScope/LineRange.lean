import LineScope.Error
import LineScope.Text.White
import LineScope.Text.Numeral

/-!
# Line ranges

A range of source lines is counted from one and includes both ends, so its first line is at least one
and not after its last. It is written `FIRST-LAST`, or as one number when it has one line, and read
with a colon or a dash between the numbers.
-/
namespace LineScope

/-- A non-empty range of source lines, counted from one, both ends included. -/
structure LineRange where
  first : UInt64
  last : UInt64
  one_le_first : 1 ≤ first
  first_le_last : first ≤ last
  deriving DecidableEq, Repr

namespace LineRange

inductive Rejection where
  /-- The first line is line zero. -/
  | fromZero
  /-- The first line comes after the last. -/
  | reversed (first last : UInt64)
  /-- A part of the text is not a line number. -/
  | notANumber (part whole : String)
  deriving DecidableEq, Repr

def Rejection.message : Rejection → String
  | .fromZero => "line numbers are 1-based; line_start must be at least 1"
  | .reversed first last =>
    "line_start " ++ Text.decimal first.toNat ++ " is after line_end " ++ Text.decimal last.toNat
  | .notANumber part whole =>
    "invalid line number '" ++ part ++ "' in range '" ++ whole ++ "'. Expected START:END or LINE"

def Rejection.toError (r : Rejection) : Error := ⟨.invalidInput, r.message⟩

/-- The range from `first` to `last` (`LineRange::new`). -/
def between (first last : UInt64) : Except Rejection LineRange :=
  if one_le_first : 1 ≤ first then
    if first_le_last : first ≤ last then
      .ok { first, last, one_le_first, first_le_last }
    else
      .error (.reversed first last)
  else
    .error .fromZero

/-- The range of one line. -/
def single (line : UInt64) : Except Rejection LineRange := between line line

def render (r : LineRange) : String :=
  if r.first = r.last then Text.decimal r.first.toNat
  else Text.decimal r.first.toNat ++ "-" ++ Text.decimal r.last.toNat

/-- Whether a character can stand between the two numbers of a range. -/
def isSeparator (c : Char) : Bool := c == ':' || c == '-'

/-- The characters before and after the first separator. -/
def splitChars (cs : List Char) : Option (List Char × List Char) :=
  match cs.dropWhile (!isSeparator ·) with
  | [] => none
  | _ :: after => some (cs.takeWhile (!isSeparator ·), after)

/-- Reads one line number of the range written as `whole`; white space around it is allowed. -/
def readBound (whole part : List Char) : Except Rejection UInt64 :=
  match Text.readWord? (Text.trimChars part) with
  | some n => .ok n
  | none => .error (.notANumber (String.ofList part) (String.ofList whole))

/-- Reads a range from characters with no white space at their ends. -/
def parseChars (cs : List Char) : Except Rejection LineRange := do
  match splitChars cs with
  | some (front, back) =>
    let first ← readBound cs front
    let last ← readBound cs back
    between first last
  | none =>
    let line ← readBound cs cs
    single line

/-- Reads `FIRST:LAST`, `FIRST-LAST` or `LINE` (`LineRange::from_str`). -/
def parse (s : String) : Except Rejection LineRange := parseChars (Text.trimChars s.toList)

/-- Whether the range has the line. -/
def has (r : LineRange) (line : Nat) : Bool :=
  decide (r.first.toNat ≤ line) && decide (line ≤ r.last.toNat)

end LineRange

end LineScope
