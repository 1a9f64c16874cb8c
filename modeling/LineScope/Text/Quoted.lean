/-!
# Quoted texts

A text between quotes, in which quotes, backslashes and what does not show are escaped.
-/
namespace LineScope.Text

/-- Characters that do not show by themselves, as inclusive ranges in rising order: controls, blanks other
than the space, marks of direction, marks that join the character in front of them, and private ones. -/
def hiddenRanges : List (Nat × Nat) :=
  [(0x00, 0x1F), (0x7F, 0xA0), (0xAD, 0xAD), (0x300, 0x36F), (0x378, 0x379), (0x483, 0x489),
   (0x591, 0x5BD), (0x5BF, 0x5BF), (0x5C1, 0x5C2), (0x5C4, 0x5C5), (0x5C7, 0x5C7), (0x600, 0x605),
   (0x610, 0x61A), (0x61C, 0x61C), (0x64B, 0x65F), (0x670, 0x670), (0x6D6, 0x6DD), (0x6DF, 0x6E4),
   (0x6E7, 0x6E8), (0x6EA, 0x6ED), (0x70F, 0x70F), (0x93C, 0x93C), (0x941, 0x948), (0x94D, 0x94D),
   (0xE31, 0xE31), (0xE34, 0xE3A), (0xE47, 0xE4E), (0x1680, 0x1680), (0x180B, 0x180F),
   (0x1AB0, 0x1ADD), (0x1AE0, 0x1AEB), (0x1DC0, 0x1DFF), (0x2000, 0x200F), (0x2028, 0x202F),
   (0x205F, 0x2071), (0x20D0, 0x20F0), (0x2DE0, 0x2DFF), (0x3000, 0x3000), (0x302A, 0x302F),
   (0x3099, 0x309A), (0xA66F, 0xA672), (0xA674, 0xA67D), (0xD800, 0xF8FF), (0xFB1E, 0xFB1E),
   (0xFE00, 0xFE0F), (0xFE20, 0xFE2F), (0xFEFF, 0xFEFF), (0xFF9E, 0xFF9F), (0xFFF0, 0xFFFB),
   (0xFFFE, 0xFFFF), (0x1F3FB, 0x1F3FF), (0xE0001, 0xE01EF), (0xF0000, 0x10FFFF)]

/-- Whether a character shows by itself. -/
def isPlain (c : Char) : Bool := !hiddenRanges.any fun (first, last) => first ≤ c.toNat && c.toNat ≤ last

/-- A character as it stands between quotes. -/
def escaped (c : Char) : List Char :=
  match c with
  | '\x00' => ['\\', '0']
  | '\t' => ['\\', 't']
  | '\n' => ['\\', 'n']
  | '\r' => ['\\', 'r']
  | '"' => ['\\', '"']
  | '\\' => ['\\', '\\']
  | c =>
    if isPlain c then [c] else "\\u\x7b".toList ++ Nat.toDigits 16 c.toNat ++ ['\x7d']

def quoted (text : String) : String :=
  String.ofList (['"'] ++ text.toList.flatMap escaped ++ ['"'])

end LineScope.Text
