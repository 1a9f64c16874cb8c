import LineScope.Text.White
import LineScope.Text.CaseTable

/-!
# Lowercase text

Lowercasing by Unicode's full mapping. Two characters need more than the table: capital I with a dot
above becomes two characters, and capital sigma depends on its neighbours, because a sigma that ends a
word has a form of its own.
-/
namespace LineScope.Text

/-- Whether a character is an upper-, lower- or titlecase letter. -/
def isCased (c : Char) : Bool := inRanges casedRanges c.toNat

/-- Whether a character is passed over in the search for a cased neighbour. -/
def isCaseIgnorable (c : Char) : Bool := inRanges caseIgnorableRanges c.toNat

/-- The lowercase form of a character, where that is one character and needs no context. -/
def lowerChar (c : Char) : Char :=
  match lowerRuns.find? (·.covers c.toNat) with
  | some run => Char.ofNat (run.lower c.toNat)
  | none => c

/-- Whether the first character that is not passed over is cased. -/
def meetsCased (cs : List Char) : Bool :=
  match cs.dropWhile isCaseIgnorable with
  | [] => false
  | c :: _ => isCased c

/-- The lowercase form of `c` between the characters `before` it, nearest first, and those `after`.
A capital sigma that follows a cased letter and precedes none takes the final form. -/
def lowerAt (before : List Char) (c : Char) (after : List Char) : List Char :=
  if c = 'Σ' then
    [if meetsCased before && !meetsCased after then 'ς' else 'σ']
  else if c = 'İ' then
    ['i', '\u0307']
  else
    [lowerChar c]

/-- Lowercases characters that follow those of `before`, nearest first. -/
def lowerFrom (before : List Char) : List Char → List Char
  | [] => []
  | c :: cs => lowerAt before c cs ++ lowerFrom (c :: before) cs

def lowerChars (cs : List Char) : List Char := lowerFrom [] cs

def lowercase (s : String) : String := String.ofList (lowerChars s.toList)

/-- The lowercase form of an ASCII letter; any other character stays. -/
def lowerAscii (c : Char) : Char :=
  if 'A' ≤ c ∧ c ≤ 'Z' then Char.ofNat (c.toNat + 32) else c

/-- Whether two texts differ at most in the case of ASCII letters. -/
def eqIgnoreAsciiCase (s t : String) : Bool := s.toList.map lowerAscii == t.toList.map lowerAscii

end LineScope.Text
