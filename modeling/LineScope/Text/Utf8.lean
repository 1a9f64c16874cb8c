/-!
# UTF-8

Two readings of a byte string. The strict one gives nothing for ill-formed bytes; the lenient one puts
a replacement character for each longest start of a sequence that cannot be completed.
-/
namespace LineScope.Text.Utf8

/-- The character that stands for bytes that are not well formed. -/
def replacement : Char := '\uFFFD'

/-- What a leading byte announces: the bits it holds itself, and the range each following byte must
lie in. The narrowed first ranges exclude overlong forms, surrogates and numbers past the last code
point. -/
def announce (b : UInt8) : Option (Nat × List (UInt8 × UInt8)) :=
  if b < 0x80 then some (b.toNat, [])
  else if b < 0xC2 then none
  else if b < 0xE0 then some (b.toNat - 0xC0, [(0x80, 0xBF)])
  else if b = 0xE0 then some (0, [(0xA0, 0xBF), (0x80, 0xBF)])
  else if b = 0xED then some (0xD, [(0x80, 0x9F), (0x80, 0xBF)])
  else if b < 0xF0 then some (b.toNat - 0xE0, [(0x80, 0xBF), (0x80, 0xBF)])
  else if b = 0xF0 then some (0, [(0x90, 0xBF), (0x80, 0xBF), (0x80, 0xBF)])
  else if b < 0xF4 then some (b.toNat - 0xF0, [(0x80, 0xBF), (0x80, 0xBF), (0x80, 0xBF)])
  else if b = 0xF4 then some (4, [(0x80, 0x8F), (0x80, 0xBF), (0x80, 0xBF)])
  else none

/-- What stands at the front of a byte string, and the bytes after it: a character, or the longest
start of a sequence that cannot be completed. -/
inductive Front where
  | char (c : Char) (rest : List UInt8)
  | broken (rest : List UInt8)
  deriving DecidableEq, Repr

/-- The bytes after the front. -/
def Front.rest : Front → List UInt8
  | .char _ rest => rest
  | .broken rest => rest

/-- Reads following bytes, one for each range, onto the bits read so far. -/
def complete (bits : Nat) : List (UInt8 × UInt8) → List UInt8 → Front
  | [], bs => .char (Char.ofNat bits) bs
  | _ :: _, [] => .broken []
  | (lo, hi) :: ranges, b :: bs =>
    if lo ≤ b ∧ b ≤ hi then complete (bits * 64 + (b.toNat - 0x80)) ranges bs
    else .broken (b :: bs)

/-- The front of the byte string `b :: bs`. -/
def front (b : UInt8) (bs : List UInt8) : Front :=
  match announce b with
  | some (bits, ranges) => complete bits ranges bs
  | none => .broken bs

theorem length_rest_complete (bits : Nat) (ranges : List (UInt8 × UInt8)) (bs : List UInt8) :
    (complete bits ranges bs).rest.length ≤ bs.length := by
  induction ranges generalizing bits bs with
  | nil => simp [complete, Front.rest]
  | cons r ranges ih =>
    cases bs with
    | nil => simp [complete, Front.rest]
    | cons b bs =>
      rw [complete]
      split
      · exact Nat.le_succ_of_le (ih _ _)
      · simp [Front.rest]

/-- The front takes at least the first byte. -/
theorem length_rest_front (b : UInt8) (bs : List UInt8) :
    (front b bs).rest.length ≤ bs.length := by
  rw [front]
  split
  · exact length_rest_complete _ _ _
  · exact Nat.le_refl _

/-- Strict reading onto the characters already read, the last one first. -/
def decodeOnto? (acc : List Char) : List UInt8 → Option (List Char)
  | [] => some acc.reverse
  | b :: bs =>
    match _h : front b bs with
    | .char c rest => decodeOnto? (c :: acc) rest
    | .broken _ => none
termination_by bs => bs.length
decreasing_by
  have := length_rest_front b bs
  rw [_h] at this
  simpa [Front.rest] using Nat.lt_succ_of_le this

/-- Lenient reading onto the characters already read, the last one first. -/
def decodeLossyOnto (acc : List Char) : List UInt8 → List Char
  | [] => acc.reverse
  | b :: bs =>
    match _h : front b bs with
    | .char c rest => decodeLossyOnto (c :: acc) rest
    | .broken rest => decodeLossyOnto (replacement :: acc) rest
termination_by bs => bs.length
decreasing_by
  all_goals
    have := length_rest_front b bs
    rw [_h] at this
    simpa [Front.rest] using Nat.lt_succ_of_le this

/-- The characters that well-formed bytes encode. -/
def decode? (bs : List UInt8) : Option String := (decodeOnto? [] bs).map String.ofList

/-- The characters that bytes encode, with a replacement for each ill-formed part. -/
def decodeLossy (bs : List UInt8) : String := String.ofList (decodeLossyOnto [] bs)

def encodeChars (cs : List Char) : List UInt8 := cs.flatMap String.utf8EncodeChar

def encode (s : String) : List UInt8 := encodeChars s.toList

end LineScope.Text.Utf8
