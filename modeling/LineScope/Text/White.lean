/-!
# White space

The characters of the Unicode property `White_Space`, and trimming by it.
-/
namespace LineScope.Text

/-- The code points of the property `White_Space`, as inclusive ranges in rising order. -/
def whiteRanges : List (Nat × Nat) :=
  [(0x09, 0x0D), (0x20, 0x20), (0x85, 0x85), (0xA0, 0xA0), (0x1680, 0x1680), (0x2000, 0x200A),
   (0x2028, 0x2029), (0x202F, 0x202F), (0x205F, 0x205F), (0x3000, 0x3000)]

def inRanges (ranges : List (Nat × Nat)) (n : Nat) : Bool :=
  ranges.any fun r => decide (r.1 ≤ n) && decide (n ≤ r.2)

/-- Whether a character has the property `White_Space`. -/
def isWhite (c : Char) : Bool := inRanges whiteRanges c.toNat

def trimFront (cs : List Char) : List Char := cs.dropWhile isWhite

def trimBack (cs : List Char) : List Char := (trimFront cs.reverse).reverse

def trimChars (cs : List Char) : List Char := trimBack (trimFront cs)

def trim (s : String) : String := String.ofList (trimChars s.toList)

def isBlank (s : String) : Bool := s.toList.all isWhite

end LineScope.Text
